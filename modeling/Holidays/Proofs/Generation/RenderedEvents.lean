import Holidays.Generation.EventJson
import Holidays.Proofs.Document.ReadBack
import Holidays.Proofs.Json.ReadBack

namespace Holidays.Event

open Json

theorem inverse : Inverse toJson ofJson? where
  back e := by simp [toJson, ofJson?, (Classification.inverse .strict).back]
  ne_null _ := by simp [toJson]

theorem plain_toJson (e : Event) (depth : Nat) : Plain (depth + 1) e.toJson := by
  apply Plain.obj
  simp only [List.forall_mem_cons, List.not_mem_nil, false_imp_iff, implies_true, and_true]
  exact ⟨.str _, .str _, .str _, .str _⟩

theorem plain_ofList (events : List Event) : Plain maxDepth (ofList toJson events) := by
  apply Plain.arr
  intro j held
  obtain ⟨e, -, rfl⟩ := List.mem_map.mp held
  exact e.plain_toJson 125

theorem read?_render (events : List Event) (pretty : Bool) :
    read? (render events pretty) = some (ofList toJson events) := by
  cases pretty with
  | false => exact (plain_ofList events).read?_chars Layout.blank_compact
  | true => exact (plain_ofList events).read?_chars Layout.blank_pretty

def decode? (text : String) : Option (List Event) := (read? text).bind (asList ofJson?)

theorem decode?_render (events : List Event) (pretty : Bool) :
    decode? (render events pretty) = some events := by
  rw [decode?, read?_render, Option.bind_some, asList_ofList inverse]

/-- Both layouts of an event list are the same JSON array and are decoded as the list, so that no
text of one list is a text of another. -/
theorem render_lossless (events : List Event) :
    (∃ array, read? (render events false) = some (.arr array) ∧
      read? (render events true) = some (.arr array)) ∧
    (∀ pretty, decode? (render events pretty) = some events) ∧
    ∀ others pretty pretty', others ≠ events → render others pretty' ≠ render events pretty := by
  refine ⟨⟨_, read?_render events false, read?_render events true⟩, decode?_render events, ?_⟩
  intro others pretty pretty' different same
  have back := decode?_render others pretty'
  rw [same, decode?_render] at back
  exact different (Option.some.inj back).symm

end Holidays.Event
