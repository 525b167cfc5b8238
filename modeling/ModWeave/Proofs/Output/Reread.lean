import ModWeave.Merge
import ModWeave.Proofs.Output.BodyYields
import ModWeave.Proofs.Registry.FinalIds

/-!
# Reading the merged stream again

The merged stream is a mod itself.  Reading it finds the occurrences of the merged mods one after the other in merge
order, each with its new number (`read_stream`), provided that no mod leaves a block open.  The lines between the
bodies are comments and blank lines, so that the stream as a whole yields what its bodies yield.
-/

namespace ModWeave.Output

open Text Line Definition

/-- The marks of a mod with their new numbers. -/
def movedMarks (t : RemapTable) (d : Definition) : List Mark := d.occurrences.map fun o => o.mark.moved t

/-- What is asked of a mod and its table so that its text can be read again within the merged one. -/
structure Rereadable (d : Definition) (t : RemapTable) : Prop where
  /-- The definition is what the reader found. -/
  run : ∃ rs last, Run ScanState.initial 0 d.mod.lines rs last ∧ d.occurrences = occurrencesOf rs
  plain : ∀ l ∈ d.mod.lines, IsPlain l
  name : IsUnbroken d.name.toList
  fits : ∀ o ∈ d.occurrences, ∀ n, t.change? o.id = some n → Fits o n

/-! ### The stream -/

private theorem lineYields_dash (text : Line) (b : BlockView) : LineYields b ('-' :: text) none b := by
  refine lineYields_of_signWord?_eq_none ?_ b
  rw [clean, List.filter_cons_of_pos (by decide)]
  exact signWord?_of_dash _

private theorem lineYields_nil (b : BlockView) : LineYields b [] none b := lineYields_of_signWord?_eq_none rfl b

private theorem yields_framed (name : String) {body : List Line} {ms : List Mark} (h : Yields none body ms none) :
    Yields none (framed name body) ms none := by
  have begin_line : LineYields none (beginLine name) none none := by
    rw [beginLine, String.toList_append]
    exact lineYields_dash _ none
  have end_line : LineYields none (endLine name) none none := by
    rw [endLine, String.toList_append]
    exact lineYields_dash _ none
  have opened := Yields.cons (lineYields_nil none) (.cons begin_line h)
  simpa [framed] using opened.append (.cons end_line (.nil none))

private theorem isUnbroken_framed {name : String} {body : List Line} (unbroken : IsUnbroken name.toList)
    (h : ∀ l ∈ body, IsUnbroken l) : ∀ l ∈ framed name body, IsUnbroken l := by
  have join : ∀ {s : String}, IsUnbroken s.toList → IsUnbroken (s ++ name).toList := fun hs c hc => by
    rw [String.toList_append] at hc
    exact (List.mem_append.1 hc).elim (hs c) (unbroken c)
  intro l hl
  simp only [framed, List.cons_append, List.mem_cons, List.mem_append, List.not_mem_nil, or_false] at hl
  rcases hl with rfl | rfl | hl | rfl
  · simp [IsUnbroken]
  · exact join (by decide +kernel)
  · exact h l hl
  · exact join (by decide +kernel)

/-- A mod that leaves no block open can be written; its lines yield its marks with their new numbers. -/
private theorem mod_spec {d : Definition} {t : RemapTable} (h : Rereadable d t)
    (closed : ∀ w ∈ (mod d.name t d.mod.lines).warnings, w.cause.kind ≠ .unterminatedBlock) :
    ∃ lines, (mod d.name t d.mod.lines).lines = .ok lines ∧ Yields none lines (movedMarks t d) none ∧
      ∀ l ∈ lines, IsUnbroken l := by
  obtain ⟨rs, last, run, occurrences_eq⟩ := h.run
  have no_fault : (body d.name t d.mod.lines).fault = none := fault_bodyFrom_of_run run
  have mod_eq : mod d.name t d.mod.lines = ⟨.ok (collapseEnds (body d.name t d.mod.lines).buffer),
      (body d.name t d.mod.lines).warnings, (mod d.name t d.mod.lines).log⟩ := by
    rw [mod, no_fault]
  have plain : ∀ l ∈ (body d.name t d.mod.lines).buffer, IsPlain l := isPlain_bodyFrom h.plain
  have no_block : last.block = none := by
    rw [mod_eq] at closed
    cases block : last.block with
    | none => rfl
    | some b =>
      have left_open : ⟨some d.name, .blockLeftOpen b.start⟩ ∈ (body d.name t d.mod.lines).warnings :=
        endWarnings_subset run (by simp [endWarnings, block])
      exact absurd rfl (closed _ left_open)
  have whole : Yields none (body d.name t d.mod.lines).buffer (movedMarks t d) (blockView last) := by
    rw [movedMarks, occurrences_eq]
    exact yields_bodyFrom run (occurrences_eq ▸ h.fits)
  rw [blockView, no_block] at whole
  refine ⟨_, by rw [mod_eq], ?_, fun l hl => ?_⟩
  · exact yields_collapseFrom whole plain fun after_end => absurd after_end Bool.false_ne_true
  · exact fun c hc => (plain l ((collapseFrom_sublist false _).subset hl) c hc).2

private theorem warnings_subset_streamFrom (m : MappedMod) (mods : List MappedMod) :
    (mod m.name m.table m.mod.lines).warnings ⊆ (streamFrom (m :: mods)).warnings := by
  unfold streamFrom
  dsimp only
  split
  · exact List.Subset.refl _
  · exact List.subset_append_left _ _

private theorem streamFrom_cons {m : MappedMod} {lines : List Line} (mods : List MappedMod)
    (written : (mod m.name m.table m.mod.lines).lines = .ok lines) :
    (streamFrom (m :: mods)).written = framed m.name lines ++ (streamFrom mods).written ∧
      (streamFrom (m :: mods)).warnings = (mod m.name m.table m.mod.lines).warnings ++ (streamFrom mods).warnings ∧
      (streamFrom (m :: mods)).fault = (streamFrom mods).fault := by
  simp [streamFrom, written]

/-- The stream of some mods can be written, and yields their marks with their new numbers one mod after the other. -/
private theorem streamFrom_spec {tables : OrderedMap String RemapTable} {ds : List Definition}
    (h : ∀ d ∈ ds, Rereadable d (Registry.tableOf tables d.name))
    (closed : ∀ w ∈ (streamFrom (ds.map (Merge.mapped tables))).warnings, w.cause.kind ≠ .unterminatedBlock) :
    (streamFrom (ds.map (Merge.mapped tables))).fault = none ∧
      Yields none (streamFrom (ds.map (Merge.mapped tables))).written
        (ds.flatMap fun d => movedMarks (Registry.tableOf tables d.name) d) none ∧
      (∀ l ∈ (streamFrom (ds.map (Merge.mapped tables))).written, IsUnbroken l) ∧
      ∃ rest, (streamFrom (ds.map (Merge.mapped tables))).written = [] :: rest := by
  induction ds with
  | nil =>
    have unbroken : ∀ l ∈ streamEnd, IsUnbroken l := by decide +kernel
    exact ⟨rfl, .cons (lineYields_nil none) (.cons (lineYields_dash _ none) (.nil none)), unbroken, _, rfl⟩
  | cons d ds ih =>
    have head := h d (by simp)
    obtain ⟨lines, written, yields, unbroken⟩ := mod_spec head fun w hw => closed w (warnings_subset_streamFrom _ _ hw)
    obtain ⟨written_eq, warnings_eq, fault_eq⟩ :=
      streamFrom_cons (m := Merge.mapped tables d) (ds.map (Merge.mapped tables)) written
    rw [List.map_cons] at closed ⊢
    rw [warnings_eq] at closed
    rw [written_eq, fault_eq]
    obtain ⟨no_fault, yields_rest, unbroken_rest, -⟩ := ih (fun e he => h e (List.mem_cons_of_mem d he)) fun w hw =>
      closed w (List.mem_append_right _ hw)
    refine ⟨no_fault, (yields_framed d.name yields).append yields_rest, fun l hl => ?_, _, rfl⟩
    rcases List.mem_append.1 hl with hl | hl
    · exact isUnbroken_framed head.name unbroken l hl
    · exact unbroken_rest l hl

/-! ### Reading it -/

/-- The merged stream, read as a mod, has the occurrences of the merged mods in merge order with their new numbers, if
the writer warns of no block that is not closed: for mods with unique names of one line each, texts without unreadable
characters, and no montag that is given by a negative literal and thus stands for a positive number. -/
theorem read_stream {ranges : RangeMap} {ds : List Definition} {tables : OrderedMap String RemapTable}
    (names : (ds.map Definition.name).Nodup) (unbroken : ∀ d ∈ ds, IsUnbroken d.name.toList)
    (readable : ∀ d ∈ ds, ∀ c ∈ d.mod.content, isUnreadable c = false)
    (montags : ∀ d ∈ ds, ∀ o ∈ d.occurrences, o.word = "montag".toList → o.id.number ≤ 0)
    (read : ∀ d ∈ ds, ∃ stop, Definition.read d.mod stop = .ok d) (valid : ranges.Valid)
    (resolved : (resolveIds ranges ds).2 = .ok tables)
    (closed : ∀ w ∈ (stream (ds.map (Merge.mapped tables))).warnings, w.cause.kind ≠ .unterminatedBlock)
    {m : ModFile} (text : m.content = joinLines (stream (ds.map (Merge.mapped tables))).written) :
    (stream (ds.map (Merge.mapped tables))).fault = none ∧
      ∃ merged, Definition.read m Signal.never = .ok merged ∧ merged.occurrences.map Occurrence.mark =
        (inMergeOrder Definition.name ds).flatMap fun d =>
          d.occurrences.map fun o => o.mark.moved (Registry.tableOf tables d.name) := by
  have each : ∀ d ∈ inMergeOrder Definition.name ds, Rereadable d (Registry.tableOf tables d.name) := by
    intro d hd
    replace hd := mem_sortBy.1 hd
    obtain ⟨stop, read_d⟩ := read d hd
    refine ⟨run_of_read read_d, fun l hl => isPlain_of_mem_splitLines (readable d hd) hl, unbroken d hd, ?_⟩
    intro o ho n change
    obtain ⟨managed, eligible, -, writable⟩ :=
      Registry.spec_of_get? names resolved hd (Option.filter_eq_some_iff.1 change).1
    obtain ⟨-, -, -, -, sign_eq, -⟩ := eligible.sign_eq valid managed
    exact ⟨writable, sign_eq, montags d hd o ho⟩
  have ordered : inMergeOrder MappedMod.name (ds.map (Merge.mapped tables)) =
      (inMergeOrder Definition.name ds).map (Merge.mapped tables) :=
    (map_inMergeOrder (Merge.mapped tables) MappedMod.name ds).symm
  rw [stream, ordered] at closed text ⊢
  obtain ⟨no_fault, yields, lines_unbroken, rest, written_eq⟩ := streamFrom_spec each closed
  refine ⟨no_fault, ?_⟩
  have lines_eq : m.lines = [] :: rest := by
    rw [ModFile.lines, text, splitLines_joinLines lines_unbroken, written_eq]
  -- the reader passes over the blank line in front, which yields nothing anyway
  rw [written_eq] at yields
  obtain ⟨rs, last, run, found⟩ : ∃ rs last, Run ScanState.initial 1 rest rs last ∧
    (occurrencesOf rs).map Occurrence.mark = _ := (yields.tail (lineYields_nil none)).run rfl rfl Nat.one_pos
  have whole : Run ScanState.initial 0 m.lines (⟨ScanState.initial, none, none⟩ :: rs) last := by
    rw [lines_eq]
    exact .cons rfl run
  obtain ⟨blocks, read_eq⟩ := read_of_run whole
  exact ⟨_, read_eq, found⟩

/-- A mod with a montag. -/
def elder : Definition where
  mod := ModFile.named "elder" "#montag 1500".toList
  occurrences := [⟨⟨.monster, -1500⟩, .declaration, 0, "montag".toList⟩]
  blocks := []

/-- A mod with the same montag, which a spell summons, and with a block end too many. -/
def younger : Definition where
  mod := ModFile.named "younger" (joinLines (["#montag 1500", "#newspell", "#description \"an", "#end\"",
    "#damage -1500", "#end", "-- twice", "#end"].map String.toList))
  occurrences := [⟨⟨.monster, -1500⟩, .declaration, 0, "montag".toList⟩,
    ⟨⟨.monster, -1500⟩, .reference, 4, "damage".toList⟩]
  blocks := [⟨1, some 5⟩]

/-- What the two get. -/
def siblingTables : OrderedMap String RemapTable := [("elder", []), ("younger", [(⟨.monster, -1500⟩, -1501)])]

theorem read_siblings : ∀ d ∈ [younger, elder], Definition.read d.mod Signal.never = .ok d := by decide +kernel

theorem resolveIds_siblings : (resolveIds RangeMap.default [younger, elder]).2 = .ok siblingTables := by decide +kernel

theorem warnings_siblings : (stream ([younger, elder].map (Merge.mapped siblingTables))).warnings = [] := by
  decide +kernel

/-- The stream of both mods, without the second end and the description, has their marks in merge order. -/
theorem read_stream_siblings :
    (∀ d ∈ [younger, elder], Definition.read d.mod Signal.never = .ok d) ∧
      (resolveIds RangeMap.default [younger, elder]).2 = .ok siblingTables ∧
      ∃ merged, Definition.read (ModFile.named "merged"
          (joinLines (stream ([younger, elder].map (Merge.mapped siblingTables))).written)) Signal.never = .ok merged ∧
        merged.occurrences.map Occurrence.mark = [⟨⟨.monster, -1500⟩, .declaration, "montag".toList⟩,
          ⟨⟨.monster, -1501⟩, .declaration, "montag".toList⟩, ⟨⟨.monster, -1501⟩, .reference, "damage".toList⟩] := by
  have names : ([younger, elder].map Definition.name).Nodup := by decide
  have unbroken : ∀ d ∈ [younger, elder], IsUnbroken d.name.toList := by decide
  have texts_clean : ∀ d ∈ [younger, elder], clean d.mod.content = d.mod.content := by decide +kernel
  have readable : ∀ d ∈ [younger, elder], ∀ c ∈ d.mod.content, isUnreadable c = false := fun d hd c hc => by
    simpa using List.filter_eq_self.1 (texts_clean d hd) c hc
  obtain ⟨-, merged, read_eq, marks_eq⟩ := read_stream names unbroken readable (by decide)
    (fun d hd => ⟨Signal.never, read_siblings d hd⟩) RangeMap.valid_default resolveIds_siblings
    (by rw [warnings_siblings]; simp) (m := ModFile.named "merged" _) rfl
  exact ⟨read_siblings, resolveIds_siblings, merged, read_eq, marks_eq.trans (by decide +kernel)⟩

end ModWeave.Output
