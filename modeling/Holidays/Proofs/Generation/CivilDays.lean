import Holidays.Proofs.Generation.Window

namespace Holidays

theorem Registry.Reachable.dateIn_ok {registry : Registry} (reachable : registry.Reachable)
    (formula : EasterFormula) (year : Int) : ∃ date, formula.dateIn registry year = .ok date := by
  cases formula with
  | western => exact ⟨_, rfl⟩
  | orthodox => exact ⟨_, Easter.dateIn_orthodox reachable.get_civil reachable.get_julian year⟩

theorem ofReference_error_congr {registry : Registry} (reachable : registry.Reachable)
    (range range' : DateRange) (r : Reference) (e : GenerationError)
    (failed : ReferenceDates.ofReference registry range r = .error e) :
    ReferenceDates.ofReference registry range' r = .error e := by
  unfold ReferenceDates.ofReference at failed ⊢
  cases named : EasterFormula.ofTag? r.formula with
  | none => simpa [named] using failed
  | some formula =>
    have dated : ∀ year ∈ ReferenceDates.yearsAround range,
        ∃ date, chronologically (formula.dateIn registry year) = .ok date := by
      intro year _
      obtain ⟨date, found⟩ := reachable.dateIn_ok formula year
      exact ⟨date, chronologically_eq_ok_iff.2 found⟩
    obtain ⟨dates, all⟩ := exists_mapM_eq_ok dated
    simp [named, all, bind, Except.bind, pure, Except.pure] at failed

theorem ofReferences_error {registry : Registry} (reachable : registry.Reachable)
    {range : DateRange} (range' : DateRange) {references : List Reference} {e : GenerationError}
    (failed : ReferenceDates.ofReferences registry range references = .error e) :
    ReferenceDates.ofReferences registry range' references = .error e := by
  unfold ReferenceDates.ofReferences at failed ⊢
  have same : references.mapM (ReferenceDates.ofReference registry range) = .error e ↔
      references.mapM (ReferenceDates.ofReference registry range') = .error e :=
    mapM_error_congr (fun r e => ⟨ofReference_error_congr reachable range range' r e,
      ofReference_error_congr reachable range' range r e⟩) e
  cases dated : references.mapM (ReferenceDates.ofReference registry range) with
  | error e' =>
    rw [dated] at failed same
    cases failed
    rw [same.1 rfl]
    rfl
  | ok table =>
    rw [dated] at failed
    cases failed

def EventSource.IsCivilDay (source : EventSource) (system : String) : Prop :=
  ∃ month day named, source.rule = .fixedMonthDay month day named ∧
    named.getD system = CalendarSystem.civilId

def EventSource.civilDays (source : EventSource) (range : DateRange) : List Occurrence :=
  match source.rule with
  | .fixedMonthDay month day _ =>
    (((range.years.filterMap fun year => Date.ofYmd? year month.toNat day.toNat).filter fun d =>
      range.Contains d).map fun d => ⟨source.key, d, source.name, "rule:" ++ source.key⟩).filter
        fun o => source.isActiveIn o.date.year
  | _ => []

namespace Specification

theorem expandSource_civil {x : Expander} {range : DateRange} {source : EventSource}
    (civil : source.IsCivilDay x.defaultSystem) :
    expandSource x range source = .ok (source.civilDays range) := by
  obtain ⟨month, day, named, ruled, own⟩ := civil
  simp only [expandSource, Expander.expand, Expander.dates, ruled, Expander.fixedMonthDay, own,
    EventSource.civilDays]
  simp only [if_true, bind, Except.bind, pure, Except.pure, List.map_map]
  rfl

theorem expand_civil {s : Specification} (civil : ∀ source ∈ s.sources, source.IsCivilDay s.system)
    (registry : Registry) (range : DateRange) :
    s.expand registry range = (ReferenceDates.ofReferences registry range s.references).map
      fun _ => s.sources.flatMap (EventSource.civilDays · range) := by
  unfold expand
  cases ReferenceDates.ofReferences registry range s.references with
  | error e => rfl
  | ok table =>
    have walked : s.sources.mapM (expandSource ⟨registry, some table, s.system⟩ range) =
        .ok (s.sources.map (EventSource.civilDays · range)) := by
      rw [mapM_eq_ok_iff, List.map_map]
      exact List.map_congr_left fun source held => expandSource_civil (civil source held)
    simp only [bind, Except.bind, walked, pure, Except.pure, Except.map, List.flatMap]

theorem expand_error {s : Specification} (civil : ∀ source ∈ s.sources, source.IsCivilDay s.system)
    {registry : Registry} (reachable : registry.Reachable) {range : DateRange} (range' : DateRange)
    {e : GenerationError} (failed : s.expand registry range = .error e) :
    s.expand registry range' = .error e := by
  rw [expand_civil civil] at failed ⊢
  cases dated : ReferenceDates.ofReferences registry range s.references with
  | error e' =>
    rw [dated] at failed
    cases failed
    rw [ofReferences_error reachable range' dated]
    rfl
  | ok table =>
    rw [dated] at failed
    cases failed

end Specification

namespace EventSource

theorem mem_civilDays {source : EventSource} {range : DateRange} {o : Occurrence}
    (h : o ∈ source.civilDays range) :
    o.key = source.key ∧ o.provenance = "rule:" ++ source.key := by
  unfold civilDays at h
  split at h
  · obtain ⟨d, -, rfl⟩ := List.mem_map.1 (List.mem_filter.1 h).1
    exact ⟨rfl, rfl⟩
  · cases h

theorem civilDays_pairs (source : EventSource) (range : DateRange) :
    ((source.civilDays range).map Occurrence.pair).Nodup := by
  unfold civilDays
  split
  · next month day _ _ =>
    have apart : (range.years.filterMap fun year =>
        Date.ofYmd? year month.toNat day.toNat).Pairwise fun d e => d ≠ e := by
      refine (span_pairwise _ _).filterMap _ ?_
      intro y z earlier d found e found' same
      have := Date.year_of_ofYmd? found
      have := Date.year_of_ofYmd? found'
      subst same
      omega
    have named := ((apart.filter fun d => decide (range.Contains d)).map
      (S := fun x y : Occurrence => x.pair ≠ y.pair)
      (fun d => (⟨source.key, d, source.name, "rule:" ++ source.key⟩ : Occurrence))
      fun d e other same => other (congrArg Prod.snd same))
    exact List.pairwise_map.2 (named.filter _)
  · exact .nil

theorem pairs_nodup {sources : List EventSource} (distinct : (sources.map key).Nodup)
    (range : DateRange) :
    ((sources.flatMap (civilDays · range)).map Occurrence.pair).Nodup := by
  rw [List.map_flatMap, List.nodup_flatMap]
  refine ⟨fun source _ => source.civilDays_pairs range, ?_⟩
  refine (List.pairwise_map.1 distinct).imp ?_
  intro source source' other pair held held'
  obtain ⟨o, here, rfl⟩ := List.mem_map.1 held
  obtain ⟨o', there, same⟩ := List.mem_map.1 held'
  have keys : o'.key = o.key := congrArg Prod.fst same
  exact other ((mem_civilDays here).1.symm.trans (keys.symm.trans (mem_civilDays there).1))

end EventSource

end Holidays
