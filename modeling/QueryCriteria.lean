import QueryCriteria.Session
import QueryCriteria.Proofs.CanonicalCriteria
import QueryCriteria.Proofs.PageLinks
import QueryCriteria.Proofs.RangeParameters
import QueryCriteria.Proofs.FieldValues
import QueryCriteria.Proofs.Faults
import QueryCriteria.Proofs.Parameters
import QueryCriteria.Proofs.GivenValues
import QueryCriteria.Proofs.ReservedNames
import QueryCriteria.Proofs.Navigation
import QueryCriteria.Proofs.ArrayShape
import QueryCriteria.Proofs.AcceptedParameters
import QueryCriteria.Proofs.OperatorSpelling
import QueryCriteria.Proofs.MergedFields
import QueryCriteria.Proofs.NegatedValue
import QueryCriteria.Proofs.RepeatedExistence
import QueryCriteria.Proofs.FieldNames
import QueryCriteria.Proofs.OperatorCollisions
import QueryCriteria.Proofs.LinkedPages
import QueryCriteria.Proofs.TokenGrammar
import QueryCriteria.Proofs.DateGrammar
import QueryCriteria.Proofs.DisjointReaders
import QueryCriteria.Proofs.FinalNewline
import QueryCriteria.Proofs.Separators
import QueryCriteria.Proofs.Instants
import QueryCriteria.Proofs.RenderedEntries
import QueryCriteria.Proofs.RenderedLiterals
import QueryCriteria.Proofs.OptionBounds
import QueryCriteria.Proofs.NameLists
import QueryCriteria.Proofs.OptionNames
import QueryCriteria.Proofs.SettingLayers
