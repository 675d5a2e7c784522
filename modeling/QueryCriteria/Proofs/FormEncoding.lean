import QueryCriteria.Form.Pairs
import QueryCriteria.Proofs.Segment
import QueryCriteria.Proofs.Utf8

/-!
Form encoding loses nothing.  An encoded component is read back as the text that it
encodes, it holds none of the marks that separate components, and so pairs written one
after the other are read back in order.
-/
namespace QueryCriteria
namespace Form

open Text

/-! ### One component -/

theorem hexDigit?_upperHex (n : Nat) (h : n < 16) : hexDigit? (upperHex n) = some n := by
  have hall : ∀ m : Fin 16, hexDigit? (upperHex m) = some m.val := by decide
  exact hall ⟨n, h⟩

theorem octets_lt (c : Char) : ∀ b ∈ octets c, b < 256 := by
  have hc := toNat_bounds c
  intro b hb
  simp only [octets] at hb
  split at hb
  · simp only [List.mem_cons, List.not_mem_nil, or_false] at hb
    omega
  split at hb
  · simp only [List.mem_cons, List.not_mem_nil, or_false] at hb
    omega
  split at hb
  · simp only [List.mem_cons, List.not_mem_nil, or_false] at hb
    omega
  · simp only [List.mem_cons, List.not_mem_nil, or_false] at hb
    omega

theorem pieces_percent {b : Nat} (h : b < 256) (cs : List Char) :
    pieces (percent b ++ cs) = .octet b :: pieces cs := by
  show pieces ('%' :: upperHex (b / 16) :: upperHex (b % 16) :: cs) = _
  rw [pieces, hexDigit?_upperHex _ (by omega), hexDigit?_upperHex _ (by omega)]
  show Piece.octet (16 * (b / 16) + b % 16) :: _ = _
  rw [Nat.div_add_mod]

theorem pieces_percents {bs : List Nat} (h : ∀ b ∈ bs, b < 256) (cs : List Char) :
    pieces (bs.flatMap percent ++ cs) = bs.map .octet ++ pieces cs := by
  induction bs with
  | nil => rfl
  | cons b bs ih =>
    rw [List.flatMap_cons, List.append_assoc, pieces_percent (h b List.mem_cons_self),
      ih fun b' hb => h b' (List.mem_cons_of_mem b hb)]
    rfl

theorem pieces_cons {c : Char} (h : c ≠ '%') (cs : List Char) :
    pieces (c :: cs) = plainPiece c :: pieces cs := by
  rw [pieces]
  intro a b rest hc
  exact absurd hc h

theorem isAlphanum_lt {c : Char} (h : c.isAlphanum = true) : c.toNat < 0x80 := by
  rcases Bool.or_eq_true_iff.1 h with h | h
  · rcases Bool.or_eq_true_iff.1 h with h | h
    · have hle : c.val.toNat ≤ 90 := UInt32.le_iff_toNat_le.1 (of_decide_eq_true h).2
      exact Nat.lt_of_le_of_lt hle (by decide)
    · have hle : c.val.toNat ≤ 122 :=
        UInt32.le_iff_toNat_le.1 (of_decide_eq_true (Bool.and_eq_true_iff.1 h).2)
      exact Nat.lt_of_le_of_lt hle (by decide)
  · exact Nat.lt_of_le_of_lt (Char.isDigit_iff_toNat.1 h).2 (by decide)

theorem isUnreserved_lt {c : Char} (h : isUnreserved c = true) : c.toNat < 0x80 := by
  simp only [isUnreserved, Bool.or_eq_true, beq_iff_eq] at h
  rcases h with (((h | rfl) | rfl) | rfl) | rfl
  · exact isAlphanum_lt h
  all_goals decide

/-- The marks that have a meaning of their own are never left as they are. -/
theorem isUnreserved_ne {c d : Char} (h : isUnreserved c = true) (hd : isUnreserved d = false) :
    c ≠ d := by
  rintro rfl
  rw [h] at hd
  cases hd

/-- A character that stands for itself is read as its octet. -/
theorem pieces_ascii {c : Char} (hlt : c.toNat < 0x80) (hplus : c ≠ '+') (hpercent : c ≠ '%')
    (cs : List Char) : pieces (c :: cs) = (octets c).map .octet ++ pieces cs := by
  rw [pieces_cons hpercent, plainPiece, if_neg hplus, if_pos hlt, octets, if_pos hlt]
  rfl

/-- Percent encoding, which writes the space too as an octet. -/
def percentChar (c : Char) : List Char :=
  if isUnreserved c then [c] else (octets c).flatMap percent

def percentEncode (cs : List Char) : List Char := cs.flatMap percentChar

theorem pieces_percentChar (c : Char) (cs : List Char) :
    pieces (percentChar c ++ cs) = (octets c).map .octet ++ pieces cs := by
  rw [percentChar]
  split
  · next h =>
    exact pieces_ascii (isUnreserved_lt h) (isUnreserved_ne h (by decide))
      (isUnreserved_ne h (by decide)) cs
  · exact pieces_percents (octets_lt c) cs

/-- What an encoded character is read as: its octets, written out or by itself. -/
theorem pieces_encodeChar (c : Char) (cs : List Char) :
    pieces (encodeChar c ++ cs) = (octets c).map .octet ++ pieces cs := by
  rw [encodeChar]
  split
  · next h =>
    subst h
    rfl
  · exact pieces_percentChar c cs

/-- Whatever writes each character so that its octets are read loses no text. -/
theorem decode_flatMap {write : Char → List Char} {cs : List Char}
    (h : ∀ c ∈ cs, ∀ rest, pieces (write c ++ rest) = (octets c).map .octet ++ pieces rest) :
    decode (cs.flatMap write) = cs := by
  show assemble none (pieces (cs.flatMap write)) = cs
  induction cs with
  | nil => rfl
  | cons c cs ih =>
    rw [List.flatMap_cons, h c List.mem_cons_self, assemble_octets,
      ih fun d hd => h d (List.mem_cons_of_mem c hd)]

theorem decode_encode (cs : List Char) : decode (encode cs) = cs :=
  decode_flatMap fun c _ => pieces_encodeChar c

theorem decode_percentEncode (cs : List Char) : decode (percentEncode cs) = cs :=
  decode_flatMap fun c _ => pieces_percentChar c

/-- A text that needs no encoding is read as it is. -/
theorem decode_ascii {cs : List Char} (h : ∀ c ∈ cs, c.toNat < 0x80 ∧ c ≠ '+' ∧ c ≠ '%') :
    decode cs = cs := by
  have hdecode : decode (cs.flatMap fun c => [c]) = cs := by
    refine decode_flatMap fun c hc rest => ?_
    obtain ⟨hlt, hplus, hpercent⟩ := h c hc
    exact pieces_ascii hlt hplus hpercent rest
  rwa [List.flatMap_singleton'] at hdecode

/-! ### Separators -/

theorem upperHex_unreserved (n : Nat) (h : n < 16) : isUnreserved (upperHex n) = true := by
  have hall : ∀ m : Fin 16, isUnreserved (upperHex m) = true := by decide
  exact hall ⟨n, h⟩

theorem mem_percentChar {c d : Char} (h : c ∈ percentChar d) : isUnreserved c = true ∨ c = '%' := by
  rw [percentChar] at h
  split at h
  · next hu =>
    rw [List.mem_singleton.1 h]
    exact .inl hu
  · obtain ⟨b, hb, hc⟩ := List.mem_flatMap.1 h
    have hlt := octets_lt d b hb
    simp only [percent, List.mem_cons, List.not_mem_nil, or_false] at hc
    rcases hc with rfl | rfl | rfl
    · exact .inr rfl
    · exact .inl (upperHex_unreserved _ (by omega))
    · exact .inl (upperHex_unreserved _ (by omega))

/-- An encoded component consists of unreserved characters, percent signs and plus signs. -/
theorem mem_encode {c : Char} {cs : List Char} (h : c ∈ encode cs) :
    isUnreserved c = true ∨ c = '%' ∨ c = '+' := by
  obtain ⟨d, -, hd⟩ := List.mem_flatMap.1 h
  rw [encodeChar] at hd
  split at hd
  · exact .inr (.inr (List.mem_singleton.1 hd))
  · exact (mem_percentChar hd).imp_right .inl

theorem not_mem_encode {c : Char} (hu : isUnreserved c = false) (hp : c ≠ '%') (hs : c ≠ '+')
    (cs : List Char) : c ∉ encode cs := by
  intro h
  rcases mem_encode h with h | h | h
  · rw [hu] at h
    cases h
  · exact hp h
  · exact hs h

theorem not_mem_percentEncode {c : Char} (hu : isUnreserved c = false) (hp : c ≠ '%')
    (cs : List Char) : c ∉ percentEncode cs := by
  intro h
  obtain ⟨d, -, hd⟩ := List.mem_flatMap.1 h
  rcases mem_percentChar hd with h | h
  · rw [hu] at h
    cases h
  · exact hp h

/-! ### Pairs -/

theorem readPair_writePair (pair : List Char × List Char) : readPair (writePair pair) = pair := by
  have hequals : '=' ∉ encode pair.1 := not_mem_encode (by decide) (by decide) (by decide) pair.1
  rw [readPair, writePair, cutAt_append hequals]
  show (decode (encode pair.1), decode (encode pair.2)) = pair
  rw [decode_encode, decode_encode]

/-- A text by itself is a name without a value. -/
theorem readPair_name {written : List Char} (h : '=' ∉ written) :
    readPair written = (decode written, []) := by
  rw [readPair, cutAt_of_not_mem h]
  rfl

/-- Only an equals sign stands between the two components of a pair. -/
theorem not_mem_writePair {c : Char} (hu : isUnreserved c = false) (hp : c ≠ '%') (hs : c ≠ '+')
    (he : c ≠ '=') (pair : List Char × List Char) : c ∉ writePair pair := by
  rw [writePair, List.mem_append, List.mem_cons, not_or, not_or]
  exact ⟨not_mem_encode hu hp hs pair.1, he, not_mem_encode hu hp hs pair.2⟩

theorem writePair_ne_nil (pair : List Char × List Char) : writePair pair ≠ [] := by
  simp [writePair]

theorem ne_nil_of_decode {written : List Char} (h : decode written ≠ []) : written ≠ [] := by
  rintro rfl
  exact h rfl

/-- Segments that are neither empty nor hold an ampersand are read one by one. -/
theorem readPairs_joinWith {segments : List (List Char)} (hne : ∀ s ∈ segments, s ≠ [])
    (ha : ∀ s ∈ segments, '&' ∉ s) :
    readPairs (joinWith '&' segments) = segments.map readPair := by
  cases segments with
  | nil => rfl
  | cons s rest =>
    rw [readPairs, splitOn_joinWith (by simp) ha, List.filter_eq_self.2]
    intro t ht
    exact decide_eq_true (hne t ht)

theorem readPairs_writePairs (pairs : List (List Char × List Char)) :
    readPairs (writePairs pairs) = pairs := by
  have hid : readPair ∘ writePair = id := funext readPair_writePair
  have hne : ∀ s ∈ pairs.map writePair, s ≠ [] :=
    List.forall_mem_map.2 fun pair _ => writePair_ne_nil pair
  have hampersand : ∀ s ∈ pairs.map writePair, '&' ∉ s := List.forall_mem_map.2 fun pair _ =>
    not_mem_writePair (by decide) (by decide) (by decide) (by decide) pair
  rw [writePairs, readPairs_joinWith hne hampersand, List.map_map, hid, List.map_id]

end Form
end QueryCriteria
