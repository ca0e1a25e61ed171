import Holidays.Proofs.Chronology.Agreement
import Holidays.Proofs.Generation.Displacement
import Holidays.Proofs.Keyed

namespace Holidays

theorem chronologically_eq_ok_iff {α : Type} {x : Except ChronologyError α} {a : α} :
    chronologically x = .ok a ↔ x = .ok a := by
  cases x <;> simp [chronologically]

def foreignDay (registry : Registry) (s : CalendarSystem) (month day : Nat) (year : Int) :
    Option Date :=
  if s.HasDay ⟨year, month, day⟩ then
    (do
      let pivot ← s.toPivot ⟨year, month, day⟩
      let civil ← registry.ofPivot CalendarSystem.civilId pivot
      return civil.toDate?).toOption.join
  else none

theorem foreignDay_eq_some_iff {registry : Registry} (reachable : registry.Reachable)
    {s : CalendarSystem} {month day : Nat} {year : Int} {d : Date} :
    foreignDay registry s month day year = some d ↔ s.toPivot ⟨year, month, day⟩ = .ok d.pivot := by
  unfold foreignDay
  constructor
  · intro h
    split at h
    · cases there : s.toPivot ⟨year, month, day⟩ with
      | error e => simp [there, bind, Except.bind, Except.toOption] at h
      | ok pivot =>
        cases back : registry.ofPivot CalendarSystem.civilId pivot with
        | error e => simp [there, back, bind, Except.bind, Except.toOption] at h
        | ok civil =>
          have dated : civil.toDate? = some d := by
            simpa [there, back, bind, Except.bind, pure, Except.pure, Except.toOption] using h
          rw [reachable.pivot_of_civil back dated]
    · cases h
  · intro there
    have has : s.HasDay ⟨year, month, day⟩ := (CalendarSystem.toPivot_eq there).1
    rw [if_pos has, there]
    simp [reachable.ofPivot_pivot, Registry.toDate?_civil, bind, Except.bind, pure, Except.pure,
      Except.toOption]

theorem inYear_of_foreignDay {registry : Registry} (reachable : registry.Reachable)
    {s : CalendarSystem} {month day : Nat} {year : Int} {d : Date}
    (h : foreignDay registry s month day year = some d) : s.InYear year d.pivot :=
  CalendarSystem.inYear_of_toPivot ((foreignDay_eq_some_iff reachable).mp h)

theorem foreignMonthDay_eq_ok {x : Expander} {month day : Nat} {system : String}
    {range : DateRange} {dates : List Date}
    (h : x.foreignMonthDay month day system range = .ok dates) :
    ∃ s first last, x.registry.get system = .ok s ∧
      x.registry.ofCivil range.first system = .ok first ∧
      x.registry.ofCivil range.last system = .ok last ∧
      dates = ((span first.ymd.year last.ymd.year).filterMap
        (foreignDay x.registry s month day)).filter fun d => range.Contains d := by
  simp only [Expander.foreignMonthDay, bind_eq_ok_iff, pure_eq_ok_iff,
    chronologically_eq_ok_iff] at h
  obtain ⟨s, got, first, low, last, high, found, walked, rfl⟩ := h
  refine ⟨s, first, last, got, low, high, ?_⟩
  rw [filterMap_of_mapM walked]
  congr 2
  funext year
  unfold foreignDay
  split
  · generalize (do
      let pivot ← s.toPivot ⟨year, month, day⟩
      let civil ← x.registry.ofPivot CalendarSystem.civilId pivot
      return civil.toDate? : Except ChronologyError (Option Date)) = result
    cases result <;> rfl
  · rfl

/-- A specification's reference dates: the last reference with a key dates the years around the
range. -/
theorem datesOf?_ofReferences {registry : Registry} {range : DateRange}
    {references : List Reference} {table : ReferenceDates}
    (h : ReferenceDates.ofReferences registry range references = .ok table) (key : String) :
    ReferenceDates.datesOf? table key =
      ((references.filter fun r => r.key = key).getLast?).map fun r =>
        (ReferenceDates.yearsAround range).filterMap (easterOf registry r) := by
  obtain ⟨entries, each, rest⟩ := bind_eq_ok_iff.mp h
  cases rest
  have dated (r : Reference) (e : String × List Date)
      (success : ReferenceDates.ofReference registry range r = .ok e) :
      e = (r.key, (ReferenceDates.yearsAround range).filterMap (easterOf registry r)) := by
    unfold ReferenceDates.ofReference at success
    split at success
    · cases success
    · next formula tagged =>
      obtain ⟨found, walked, pair⟩ := bind_eq_ok_iff.mp success
      cases pair
      rw [filterMap_of_mapM walked]
      congr 2
      funext year
      rw [easterOf, tagged, Option.bind_some]
      cases formula.dateIn registry year <;> rfl
  rw [ReferenceDates.datesOf?, Keyed.find?_putAll_nil, eq_map_of_mapM each dated, List.filter_map,
    List.getLast?_map, Option.map_map]
  rfl

section

variable {inner outer : DateRange} (within : inner.Within outer)

include within

theorem years_within : outer.first.year ≤ inner.first.year ∧ inner.last.year ≤ outer.last.year :=
  ⟨Date.year_mono within.1, Date.year_mono within.2⟩

theorem civilYears_within {f : Int → Option Date}
    (home : ∀ year d, f year = some d → d.year = year) :
    (inner.years.filterMap f).filter (fun d => inner.Contains d) =
      ((outer.years.filterMap f).filter fun d => outer.Contains d).filter
        fun d => inner.Contains d := by
  have years := years_within within
  rw [within.filter_filter]
  refine (filter_filterMap_span years.1 years.2 ?_).symm
  intro year _ _ d found inside
  have inside := of_decide_eq_true inside
  exact home year d found ▸ ⟨Date.year_mono inside.1, Date.year_mono inside.2⟩

theorem foreignMonthDay_within {x y : Expander} (reachable : x.registry.Reachable)
    (same : y.registry = x.registry) {month day : Nat} {system : String} {narrow wide : List Date}
    (hn : x.foreignMonthDay month day system inner = .ok narrow)
    (hw : y.foreignMonthDay month day system outer = .ok wide) :
    narrow = wide.filter fun d => inner.Contains d := by
  obtain ⟨s, first, last, got, low, high, rfl⟩ := foreignMonthDay_eq_ok hn
  obtain ⟨s', first', last', got', low', high', rfl⟩ := foreignMonthDay_eq_ok hw
  rw [same] at got' low' high' ⊢
  rw [got] at got'
  cases got'
  obtain ⟨atFirst, -⟩ := (reachable.ofCivil_eq_ok_iff got).mp low
  obtain ⟨atLast, -⟩ := (reachable.ofCivil_eq_ok_iff got).mp high
  obtain ⟨atFirst', -⟩ := (reachable.ofCivil_eq_ok_iff got).mp low'
  obtain ⟨atLast', -⟩ := (reachable.ofCivil_eq_ok_iff got).mp high'
  -- Both ends and the date lie in known years, which follow the order of pivots.
  have begins := CalendarSystem.inYear_of_ofPivot? atFirst
  have ends := CalendarSystem.inYear_of_ofPivot? atLast
  have earlier := (CalendarSystem.inYear_of_ofPivot? atFirst').mono begins
    (Int.add_le_add_right within.1 _)
  have later := ends.mono (CalendarSystem.inYear_of_ofPivot? atLast')
    (Int.add_le_add_right within.2 _)
  rw [within.filter_filter]
  refine (filter_filterMap_span earlier later ?_).symm
  intro year _ _ d found inside
  have inside := of_decide_eq_true inside
  have here := inYear_of_foreignDay reachable found
  exact ⟨begins.mono here (Int.add_le_add_right inside.1 _),
    here.mono ends (Int.add_le_add_right inside.2 _)⟩

theorem moved_within {f : Int → Option Date} {move : Date → Option Date}
    (home : ∀ year, outer.first.year - 1 ≤ year → year ≤ outer.last.year + 1 →
      ∀ a, f year = some a → a.year = year)
    (near : ∀ a d, move a = some d →
      a.number ≤ d.number + 365 ∧ d.number ≤ a.number + 365) :
    (((ReferenceDates.yearsAround inner).filterMap f).filterMap move).filter
        (fun d => inner.Contains d) =
      ((((ReferenceDates.yearsAround outer).filterMap f).filterMap move).filter
        fun d => outer.Contains d).filter fun d => inner.Contains d := by
  have years := years_within within
  rw [within.filter_filter, List.filterMap_filterMap, List.filterMap_filterMap]
  refine (filter_filterMap_span (by omega) (by omega) ?_).symm
  intro year low high d found inside
  obtain ⟨a, anchored, moved⟩ := Option.bind_eq_some_iff.mp found
  have inside := of_decide_eq_true inside
  have first := Date.year_mono inside.1
  have last := Date.year_mono inside.2
  -- 365 days change the year by one at most.
  have there := home year low high a anchored
  have := near a d moved
  have := Date.year_le_succ (a := a) (b := d) (by omega)
  have := Date.year_le_succ (a := d) (b := a) (by omega)
  omega

end

def Rule.StaysNear : Rule → Prop
  | .relative _ _ days weekday =>
    (∀ n ∈ days, -365 ≤ n.toInt ∧ n.toInt ≤ 365) ∧ ∀ w ∈ weekday, w.nth.toNat ≤ 52
  | _ => True

theorem from?_near {source : String} {days : Option Int64} {weekday : Option WeekdayOffset}
    {reference : Option String} {anchor : Option MonthDay} {offset : Offset}
    (near : (Rule.relative reference anchor days weekday).StaysNear)
    (h : Offset.select source days weekday = .ok offset) (a d : Date)
    (moved : offset.from? a = some d) :
    a.number ≤ d.number + 365 ∧ d.number ≤ a.number + 365 := by
  unfold Offset.select at h
  split at h
  · next count =>
    cases h
    have bound := near.1 count rfl
    rw [Offset.from?, Date.addDays?_eq_some_iff] at moved
    omega
  · next found =>
    split at h
    · cases h
    · cases h
      exact weekdaySearch?_near (near.2 found rfl) moved
  · cases h

/-- Two expanders of one specification, each with the reference dates of its own range. -/
structure Expanders (inner outer : DateRange) where
  registry : Registry
  references : List Reference
  narrow : ReferenceDates
  wide : ReferenceDates
  system : String
  reachable : registry.Reachable
  dated : ReferenceDates.ofReferences registry inner references = .ok narrow
  datedWide : ReferenceDates.ofReferences registry outer references = .ok wide
  within : inner.Within outer
  low : 0 ≤ outer.first.year + 1
  high : outer.last.year ≤ 10000

namespace Expanders

variable {inner outer : DateRange} (x : Expanders inner outer)

def inside : Expander := ⟨x.registry, some x.narrow, x.system⟩

def outside : Expander := ⟨x.registry, some x.wide, x.system⟩

theorem anchors_within {source : String} {reference : Option String} {anchor : Option MonthDay}
    {narrow wide : List Date} {move : Date → Option Date}
    (near : ∀ a d, move a = some d → a.number ≤ d.number + 365 ∧ d.number ≤ a.number + 365)
    (hn : x.inside.anchors source reference anchor inner = .ok narrow)
    (hw : x.outside.anchors source reference anchor outer = .ok wide) :
    (narrow.filterMap move).filter (fun d => inner.Contains d) =
      ((wide.filterMap move).filter fun d => outer.Contains d).filter
        fun d => inner.Contains d := by
  have early := x.low
  have late := x.high
  cases reference with
  | some key =>
    simp only [Expander.anchors, inside, outside, datesOf?_ofReferences x.dated,
      datesOf?_ofReferences x.datedWide] at hn hw
    cases last : (x.references.filter fun r => r.key = key).getLast? with
    | none => simp [last] at hn
    | some r =>
      simp only [last, Option.map_some] at hn hw
      cases hn
      cases hw
      refine moved_within x.within ?_ near
      intro year low high a dated
      exact year_of_easter x.reachable (by omega) (by omega) dated
  | none =>
    cases anchor with
    | none => cases hn
    | some anchor =>
      cases hn
      cases hw
      exact moved_within x.within (fun year _ _ a found => Date.year_of_ofYmd? found) near

theorem dates_within {source : EventSource} (near : source.rule.StaysNear)
    {narrow wide : List (Date × String)} (hn : x.inside.dates source inner = .ok narrow)
    (hw : x.outside.dates source outer = .ok wide) :
    narrow = wide.filter fun d => inner.Contains d.1 := by
  have named {ds es : List Date} (h : ds = es.filter fun d => inner.Contains d) :
      (ds.map fun d => (d, source.name)) =
        (es.map fun d => (d, source.name)).filter fun d => inner.Contains d.1 := by
    rw [h, List.filter_map]
    rfl
  unfold Expander.dates at hn hw
  cases ruled : source.rule with
  | explicitDates ds =>
    simp only [ruled, Except.ok.injEq] at hn hw
    subst hn hw
    rw [List.filter_map, ← x.within.filter_filter NotedDate.date]
    rfl
  | fixedMonthDay month day system =>
    simp only [ruled, bind_eq_ok_iff, pure_eq_ok_iff] at hn hw
    obtain ⟨ds, expanded, rfl⟩ := hn
    obtain ⟨es, expanded', rfl⟩ := hw
    apply named
    unfold Expander.fixedMonthDay at expanded expanded'
    have same : x.outside.defaultSystem = x.inside.defaultSystem := rfl
    rw [same] at expanded'
    split at expanded
    · next civil =>
      rw [if_pos civil] at expanded'
      cases expanded
      cases expanded'
      exact civilYears_within x.within fun year d found => Date.year_of_ofYmd? found
    · next other =>
      rw [if_neg other] at expanded'
      exact foreignMonthDay_within x.within (x := x.inside) x.reachable rfl expanded expanded'
  | nthWeekday month weekday nth =>
    simp only [ruled, Except.ok.injEq] at hn hw
    subst hn hw
    exact named (civilYears_within x.within fun year d found => year_of_nthWeekdayOfMonth? found)
  | relative reference anchor days weekday =>
    simp only [ruled, bind_eq_ok_iff, pure_eq_ok_iff] at hn hw
    obtain ⟨offset, selected, anchors, found, rfl⟩ := hn
    obtain ⟨offset', selected', anchors', found', rfl⟩ := hw
    rw [selected] at selected'
    cases selected'
    rw [ruled] at near
    exact named (x.anchors_within (from?_near near selected) found found')

end Expanders

end Holidays
