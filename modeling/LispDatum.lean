import LispDatum.Datum.Description
import LispDatum.Main
import LispDatum.Reader.Lemmas
import LispDatum.Proofs.Acceptance
import LispDatum.Proofs.Refusal
import LispDatum.Proofs.Continuation
import LispDatum.Proofs.ReadBack
import LispDatum.Proofs.RoundTrip
import LispDatum.Proofs.Suffix
import LispDatum.Proofs.Locality
import LispDatum.Proofs.Choice
import LispDatum.Proofs.AnyPosition
import LispDatum.Proofs.SingleLine
import LispDatum.Proofs.Response
import LispDatum.Proofs.NumeralValue
import LispDatum.Proofs.CanonicalNumeral
import LispDatum.Proofs.StringItems
import LispDatum.Proofs.Place
import LispDatum.Proofs.Progress
import LispDatum.Proofs.Trace
import LispDatum.Proofs.FlagSpelling
import LispDatum.Proofs.Placement
import LispDatum.Proofs.Identity
import LispDatum.Proofs.DigitFold
import LispDatum.Proofs.ShownText
import LispDatum.Proofs.DecidingMembers
