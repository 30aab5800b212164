import FieldRules.Pattern
import FieldRules.Sample
import FieldRules.Trace
import FieldRules.Validation
import FieldRules.Value.Text
import FieldRules.Proofs.Acceptance
import FieldRules.Proofs.HiddenEdit
import FieldRules.Proofs.SameShape
import FieldRules.Proofs.Inlining
import FieldRules.Proofs.Log
import FieldRules.Proofs.Blame
import FieldRules.Proofs.Typing
import FieldRules.Proofs.FirstFlaw
import FieldRules.Proofs.RoundTrip
import FieldRules.Proofs.Listing
import FieldRules.Proofs.Transfer
import FieldRules.Proofs.LastWrite
import FieldRules.Proofs.Derivation
import FieldRules.Proofs.Extension
import FieldRules.Proofs.Reordering
import FieldRules.Proofs.Spread
import FieldRules.Proofs.Joining
import FieldRules.Proofs.Conditions
import FieldRules.Proofs.IntegerBounds
import FieldRules.Proofs.ReadBounds
import FieldRules.Proofs.Membership
import FieldRules.Proofs.ExactLength
import FieldRules.Proofs.Rational
import FieldRules.Proofs.FloatBounds
import FieldRules.Proofs.ByteOrder
import FieldRules.Proofs.Inventory
import FieldRules.Proofs.Collection
import FieldRules.Proofs.ReportJson
import FieldRules.Proofs.Place
