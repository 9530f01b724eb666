import FindSelect.Projection
import FindSelect.Proofs.FirstError

/-!
# What a projection gives

The walk along the columns looks only at those that the projection names. The first of them fixes
the mode, and each of the others is judged by it. A walk that comes to its end gives the named
columns, or all the others.

* `Entries.names`, `Entries.modeOf?`: what a projection says of a column;
* `foldlM_step_names`, `foldlM_step_of_mode`: the columns that the walk looks at, and how it judges
  them;
* `foldlM_step_eq_ok_iff`: the walks that come to their end;
* **`resolveProjection_eq_ok_iff`**: the columns that a projection gives;
* `projectedColumns_eq_ok_iff`: the same for an optional projection.
-/

namespace FindSelect

/-! ## What a projection says -/

/-- Whether a projection names a column. -/
def Entries.names (projection : Entries) (c : Column) : Bool := (projection.lookup c.name).isSome

/-- The mode that a projection gives a column, if it names the column and the value is a mode. -/
def Entries.modeOf? (projection : Entries) (c : Column) : Option ProjectionMode :=
  (projection.lookup c.name).bind ProjectionMode.ofJson?

/-- The columns that a projection gives in a mode: those that it names, or all others. -/
def ProjectionMode.select (projection : Entries) (columns : List Column) :
    ProjectionMode → List Column
  | .inclusion => columns.filter projection.names
  | .exclusion => columns.filter fun c => !projection.names c

/-- How a column is judged once the mode is known: a projection that names it must give it the same
mode. -/
def ProjectionMode.judge (projection : Entries) (first : ProjectionMode) (c : Column) :
    Except CallError Column :=
  match projection.lookup c.name with
  | none => .ok c
  | some v =>
    match ProjectionMode.ofJson? v with
    | none => .error (.invalidProjection (.notMode c.name v))
    | some current => if first = current then .ok c else .error (.modeConflict first current)

variable {projection : Entries}

theorem ProjectionMode.judge_eq_ok_iff {first : ProjectionMode} {c d : Column}
    (hc : projection.names c = true) :
    first.judge projection c = .ok d ↔ c = d ∧ projection.modeOf? c = some first := by
  unfold Entries.names at hc
  unfold ProjectionMode.judge Entries.modeOf?
  cases hv : projection.lookup c.name with
  | none => rw [hv] at hc; cases hc
  | some v =>
    simp only [Option.bind_some]
    cases ProjectionMode.ofJson? v with
    | none => simp
    | some current =>
      by_cases h : first = current
      · simp [h]
      · simp [h, Ne.symm h]

/-! ## The walk -/

theorem ProjectionScan.step_of_not_names (scan : ProjectionScan) {c : Column}
    (hc : projection.names c = false) : scan.step projection c = .ok scan := by
  unfold Entries.names at hc
  rw [Option.isSome_eq_false_iff, Option.isNone_iff_eq_none] at hc
  rw [ProjectionScan.step, hc]

theorem foldlM_step_names (scan : ProjectionScan) (columns : List Column) :
    columns.foldlM (ProjectionScan.step projection) scan =
      (columns.filter projection.names).foldlM (ProjectionScan.step projection) scan := by
  induction columns generalizing scan with
  | nil => rfl
  | cons c columns ih =>
    rw [List.foldlM_cons]
    by_cases hc : projection.names c = true
    · rw [List.filter_cons_of_pos hc, List.foldlM_cons]
      congr 1
      funext scan'
      exact ih scan'
    · rw [List.filter_cons_of_neg hc,
        ProjectionScan.step_of_not_names scan (Bool.eq_false_iff.2 hc)]
      exact ih scan

theorem ProjectionScan.step_of_mode {first : ProjectionMode} (matched : List Column) {c : Column}
    (hc : projection.names c = true) :
    ProjectionScan.step projection ⟨some first, matched⟩ c =
      (fun d => ⟨some first, matched ++ [d]⟩) <$> first.judge projection c := by
  unfold Entries.names at hc
  unfold ProjectionScan.step ProjectionMode.judge
  cases hv : projection.lookup c.name with
  | none => rw [hv] at hc; cases hc
  | some v =>
    dsimp only
    cases ProjectionMode.ofJson? v with
    | none => rfl
    | some current =>
      by_cases h : first = current
      · simp only [h]
        rfl
      · simp only [if_neg h]
        rfl

theorem foldlM_step_of_mode (first : ProjectionMode) (matched : List Column) {cs : List Column}
    (hcs : ∀ c ∈ cs, projection.names c = true) :
    cs.foldlM (ProjectionScan.step projection) ⟨some first, matched⟩ =
      (fun ds => ⟨some first, matched ++ ds⟩) <$> cs.mapM (first.judge projection) := by
  induction cs generalizing matched with
  | nil => rw [List.mapM_nil, List.foldlM_nil, map_pure, List.append_nil]
  | cons c cs ih =>
    rw [List.forall_mem_cons] at hcs
    rw [List.foldlM_cons, ProjectionScan.step_of_mode matched hcs.1]
    cases hc : first.judge projection c with
    | error e => rw [mapM_cons_of_error hc]; rfl
    | ok d =>
      rw [mapM_cons_of_ok hc]
      refine (ih (matched ++ [d]) hcs.2).trans ?_
      cases cs.mapM (first.judge projection) with
      | error e => rfl
      | ok ds =>
        simp only [List.append_assoc, List.singleton_append]
        rfl

theorem ProjectionScan.step_start_eq_ok_iff {c : Column} {scan : ProjectionScan}
    (hc : projection.names c = true) :
    ProjectionScan.step projection {} c = .ok scan ↔
      ∃ first, projection.modeOf? c = some first ∧ scan = ⟨some first, [c]⟩ := by
  unfold Entries.names at hc
  unfold ProjectionScan.step Entries.modeOf?
  cases hv : projection.lookup c.name with
  | none => rw [hv] at hc; cases hc
  | some v =>
    simp only [Option.bind_some]
    cases ProjectionMode.ofJson? v with
    | none => simp
    | some current => simp [eq_comm]

theorem foldlM_step_of_mode_eq_ok_iff {first : ProjectionMode} {matched cs : List Column}
    {scan : ProjectionScan} (hcs : ∀ c ∈ cs, projection.names c = true) :
    cs.foldlM (ProjectionScan.step projection) ⟨some first, matched⟩ = .ok scan ↔
      (∀ c ∈ cs, projection.modeOf? c = some first) ∧ scan = ⟨some first, matched ++ cs⟩ := by
  have hjudge : ∀ c ∈ cs, ∀ d, first.judge projection c = .ok d ↔
      c = d ∧ projection.modeOf? c = some first :=
    fun c hc d => ProjectionMode.judge_eq_ok_iff (hcs c hc)
  rw [foldlM_step_of_mode first matched hcs, map_eq_ok_iff]
  simp only [mapM_check_eq_ok_iff hjudge]
  constructor
  · rintro ⟨ds, ⟨rfl, hmode⟩, rfl⟩
    exact ⟨hmode, rfl⟩
  · rintro ⟨hmode, rfl⟩
    exact ⟨cs, ⟨rfl, hmode⟩, rfl⟩

/-- A walk comes to its end when all the columns that are named have one mode, and it finds that
mode and those columns. -/
theorem foldlM_step_eq_ok_iff {columns : List Column} {scan : ProjectionScan} :
    columns.foldlM (ProjectionScan.step projection) {} = .ok scan ↔
      (columns.filter projection.names = [] ∧ scan = {}) ∨
        ∃ first, columns.filter projection.names ≠ [] ∧
          (∀ c ∈ columns.filter projection.names, projection.modeOf? c = some first) ∧
          scan = ⟨some first, columns.filter projection.names⟩ := by
  have hnames : ∀ c ∈ columns.filter projection.names, projection.names c = true :=
    fun c hc => (List.mem_filter.1 hc).2
  rw [foldlM_step_names]
  cases hnamed : columns.filter projection.names with
  | nil => simp [pure, Except.pure, eq_comm]
  | cons c cs =>
    rw [hnamed, List.forall_mem_cons] at hnames
    rw [List.foldlM_cons, bind_eq_ok_iff]
    simp only [ProjectionScan.step_start_eq_ok_iff hnames.1, List.forall_mem_cons]
    constructor
    · rintro ⟨_, ⟨first, hfirst, rfl⟩, hrest⟩
      obtain ⟨hmode, rfl⟩ := (foldlM_step_of_mode_eq_ok_iff hnames.2).1 hrest
      exact .inr ⟨first, List.cons_ne_nil c cs, ⟨hfirst, hmode⟩, rfl⟩
    · rintro (⟨hnil, -⟩ | ⟨first, -, ⟨hfirst, hmode⟩, rfl⟩)
      · cases hnil
      · exact ⟨_, ⟨first, hfirst, rfl⟩, (foldlM_step_of_mode_eq_ok_iff hnames.2).2 ⟨hmode, rfl⟩⟩

/-! ## The columns that are given -/

theorem ProjectionScan.fields_eq_select (columns : List Column) (first : ProjectionMode) :
    ProjectionScan.fields columns ⟨some first, columns.filter projection.names⟩ =
      some (first.select projection columns) := by
  cases first with
  | inclusion => rfl
  | exclusion =>
    unfold ProjectionScan.fields ProjectionMode.select
    refine congrArg some (List.filter_congr fun c hc => ?_)
    -- a column is among those that were met exactly when it is named
    have hmet : (columns.filter projection.names).contains c = projection.names c := by
      rw [Bool.eq_iff_iff, List.contains_iff_mem, List.mem_filter]
      exact and_iff_right hc
    exact congrArg not hmet

/-- **The columns that a projection gives.** There are none when it names no column. Otherwise all
the columns that it names must have one mode, which selects the columns. -/
theorem resolveProjection_eq_ok_iff {columns : List Column} {fields : Option (List Column)} :
    resolveProjection projection columns = .ok fields ↔
      (columns.filter projection.names = [] ∧ fields = none) ∨
        ∃ first : ProjectionMode, columns.filter projection.names ≠ [] ∧
          (∀ c ∈ columns.filter projection.names, projection.modeOf? c = some first) ∧
          fields = some (first.select projection columns) := by
  rw [resolveProjection, map_eq_ok_iff]
  simp only [foldlM_step_eq_ok_iff]
  constructor
  · rintro ⟨scan, ⟨hnil, rfl⟩ | ⟨first, hne, hmode, rfl⟩, rfl⟩
    · exact .inl ⟨hnil, rfl⟩
    · exact .inr ⟨first, hne, hmode, ProjectionScan.fields_eq_select columns first⟩
  · rintro (⟨hnil, rfl⟩ | ⟨first, hne, hmode, rfl⟩)
    · exact ⟨{}, .inl ⟨hnil, rfl⟩, rfl⟩
    · exact ⟨_, .inr ⟨first, hne, hmode, rfl⟩, ProjectionScan.fields_eq_select columns first⟩

theorem projectedColumns_eq_ok_iff {columns : List Column} {given : Option Json}
    {fields : Option (List Column)} :
    projectedColumns given columns = .ok fields ↔
      ((given = none ∨ given = some .null) ∧ fields = none) ∨
        ∃ entries : Entries, given = some (.document entries) ∧
          resolveProjection entries columns = .ok fields := by
  cases given with
  | none => simp [projectedColumns, eq_comm]
  | some v => cases v <;> simp [projectedColumns, eq_comm]

end FindSelect
