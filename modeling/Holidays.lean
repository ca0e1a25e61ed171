import Holidays.Main
import Holidays.Proofs.Civil.Order
import Holidays.Proofs.Keyed
import Holidays.Proofs.Chronology.Agreement
import Holidays.Proofs.Generation.Displacement
import Holidays.Proofs.Generation.RuleWindow
import Holidays.Proofs.Generation.Finish
import Holidays.Proofs.Generation.Window
import Holidays.Proofs.Resolution.Flattening
import Holidays.Proofs.Observance.Allotment
import Holidays.Proofs.Observance.Shifted
import Holidays.Proofs.Civil.DateText
import Holidays.Proofs.Observance.Cascade
import Holidays.Proofs.Generation.CivilDays
import Holidays.Proofs.Easter
import Holidays.Proofs.Generation.CascadeWindow
import Holidays.Proofs.Observance.Greedy
import Holidays.Proofs.LeapRule.Parsing
import Holidays.Proofs.Chronology.RoundTrip
import Holidays.Proofs.Chronology.Layout
import Holidays.Proofs.Generation.FixedDays
import Holidays.Proofs.Generation.AddedEvents
import Holidays.Proofs.Generation.Shape
import Holidays.Proofs.JulianEaster
import Holidays.Proofs.Generation.Systems
import Holidays.Proofs.LeapRule.Tokens
import Holidays.Proofs.Observance.Exchange
import Holidays.Proofs.Generation.RepeatedDates
import Holidays.Proofs.LeapRule.Printing
import Holidays.Proofs.Chronology.DateOrder
import Holidays.Proofs.Resolution.Faults
import Holidays.Proofs.Generation.SourceOrder
import Holidays.Proofs.Generation.Unclassified
import Holidays.Proofs.Resolution.Remembering
import Holidays.Proofs.Resolution.Unrelated
import Holidays.Proofs.Resolution.Traversal
import Holidays.Proofs.Chronology.Registration
import Holidays.Proofs.Document.Fields
import Holidays.Proofs.Document.ReadBack
import Holidays.Proofs.LeapRule.Columns
import Holidays.Proofs.Observance.Conservation
import Holidays.Proofs.Generation.ReferenceDates
import Holidays.Proofs.Generation.Anchors
import Holidays.Proofs.Observance.Nearest
import Holidays.Proofs.Observance.Reordered
import Holidays.Proofs.Chronology.Refusals
import Holidays.Proofs.Generation.Overshoot
import Holidays.Proofs.Chronology.WordArithmetic
import Holidays.Proofs.Generation.OrdinalWeekdays
import Holidays.Proofs.Generation.WeekdaySearch
import Holidays.Proofs.Library
import Holidays.Proofs.Chronology.Validity
import Holidays.Proofs.Chronology.CivilRoom
import Holidays.Proofs.Generation.RenderedEvents
import Holidays.Proofs.LeapRule.Readings
import Holidays.Proofs.LeapRule.Prefixes
import Holidays.Proofs.LeapRule.FirstFault
