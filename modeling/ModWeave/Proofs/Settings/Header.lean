import ModWeave.Proofs.Definition.PassedOver
import ModWeave.Proofs.Line.Plain
import ModWeave.Settings

/-!
# The header read back

The merged mod begins with a header, into which the texts of the settings go as they are.  Whoever reads the merged mod
is to pass over the header, and to begin with the bodies as if nothing stood in front of them.  `header_passed_over` says
when this is so.  A line end in a setting makes a new line, which has to be passed over for its own sake, and a
description with an odd number of quotation marks stays open until a later setting brings another one.  So there are
headers that swallow the lines behind them, and headers with lines that are content (`not_passesOver_readBack`).

The first line of every setting speaks about the mod, whatever the setting is, since its beginning decides that
(`Header.IsOpening`).  Everything else is said by the lines behind the line ends, by the quotation marks of the
description, and by those of the settings behind it.
-/

namespace ModWeave

open Text Line Definition Output

/-! ### The lines of a header -/

/-- A line as it is written, and as the reader of a mod takes it. -/
def readings : List (Line → Line) := [id, clean]

private theorem reading_cases {view : Line → Line} (hv : view ∈ readings) : view = id ∨ view = clean := by
  simpa [readings] using hv

/-- A readable beginning of a line stays. -/
private theorem reading_append {p : Line} (readable : clean p = p) {view : Line → Line} (hv : view ∈ readings) (s : Line) :
    view (p ++ s) = p ++ view s := by
  rcases reading_cases hv with rfl | rfl
  · rfl
  · rw [clean_append, readable]

private theorem count_quote_reading {view : Line → Line} (hv : view ∈ readings) (l : Line) :
    (view l).count '"' = l.count '"' := by
  rcases reading_cases hv with rfl | rfl
  · rfl
  · exact List.count_filter (by decide)

/-- A text with which a line about the mod begins, whatever stands behind it. -/
structure IsOpening (p : Line) : Prop where
  readable : clean p = p
  unbroken : IsUnbroken p
  speaks : ∀ s, isMetadata (p ++ s) = true ∨ isDescriptionStart (p ++ s) = true

/-- A text with which a statement about the mod begins, whatever stands behind it. -/
structure IsStatementOpening (p : Line) : Prop extends IsOpening p where
  statement : ∀ s, IsStatement (p ++ s)

private theorem isStatementOpening {p : Line} (readable : clean p = p) (unbroken : IsUnbroken p)
    (statement : ∀ s, IsStatement (p ++ s)) : IsStatementOpening p :=
  ⟨⟨readable, unbroken, fun s => Or.inl (statement s).metadata⟩, statement⟩

private theorem metadata_or_start {l : Line} (keyword : hasKeyword "description" l = true) :
    isMetadata l = true ∨ isDescriptionStart l = true := by
  cases start : isDescriptionStart l <;> simp [isMetadata, keyword, start]

namespace Header

/-- The lines of the header in the text of the merged mod. -/
def readBack (h : Header) : List Line := splitLines (joinLines h.lines)

/-- Line number `i` of the header is the first one of a setting. -/
def BeginsSetting (h : Header) (i : Nat) : Prop :=
  ∃ k < h.lines.length, i = (splitLines (joinLines (h.lines.take k))).length

variable (h : Header)

/-- How the line with the name begins. -/
def nameStart : Line := "#modname \"".toList

def descriptionStart : Line := "#description \"".toList

def iconStart : Line := "#icon \"".toList

def versionStart : Line := "#version ".toList

def domversionStart : Line := "#domversion ".toList

/-- A text between quotation marks, of which the first stands at the end of the beginning. -/
def quoted (start : Line) (text : String) : Line := start ++ (text.toList ++ ['"'])

/-- The lines behind that of the description. -/
def moreLines : List Line :=
  (if h.icon = "" then [] else [quoted iconStart h.icon]) ++
    (if h.version = "" then [] else [versionStart ++ h.version.toList]) ++
    (if h.domversion = "" then [] else [domversionStart ++ h.domversion.toList])

private theorem quoted_toList (start text : String) : quoted start.toList text = (start ++ text ++ "\"").toList := by
  rw [String.toList_append, String.toList_append, List.append_assoc]
  rfl

theorem lines_eq :
    h.lines = quoted nameStart h.modname :: quoted descriptionStart h.description :: h.moreLines := by
  have bare_toList : ∀ start text : String, start.toList ++ text.toList = (start ++ text).toList := fun start text =>
    String.toList_append.symm
  have name := quoted_toList "#modname \"" h.modname
  have description := quoted_toList "#description \"" h.description
  have icon := quoted_toList "#icon \"" h.icon
  have version := bare_toList "#version " h.version
  have domversion := bare_toList "#domversion " h.domversion
  unfold moreLines nameStart descriptionStart iconStart versionStart domversionStart
  rw [name, description, icon, version, domversion]
  rfl

private theorem isStatementOpening_modname : IsStatementOpening nameStart :=
  isStatementOpening rfl (by decide) fun _ => ⟨rfl, rfl⟩

private theorem isStatementOpening_icon : IsStatementOpening iconStart :=
  isStatementOpening rfl (by decide) fun _ => ⟨rfl, rfl⟩

private theorem isStatementOpening_version : IsStatementOpening versionStart :=
  isStatementOpening rfl (by decide) fun _ => ⟨rfl, rfl⟩

private theorem isStatementOpening_domversion : IsStatementOpening domversionStart :=
  isStatementOpening rfl (by decide) fun _ => ⟨rfl, rfl⟩

private theorem isOpening_description : IsOpening descriptionStart :=
  ⟨rfl, by decide, fun _ => metadata_or_start rfl⟩

private theorem mem_optional_iff {text : String} {l m : Line} :
    l ∈ (if text = "" then [] else [m]) ↔ text ≠ "" ∧ l = m := by
  by_cases empty : text = "" <;> simp [empty]

private theorem exists_of_mem_moreLines {l : Line} (hl : l ∈ h.moreLines) :
    ∃ p s, l = p ++ s ∧ IsStatementOpening p := by
  simp only [moreLines, List.mem_append, mem_optional_iff] at hl
  rcases hl with (⟨-, rfl⟩ | ⟨-, rfl⟩) | ⟨-, rfl⟩
  · exact ⟨_, _, rfl, isStatementOpening_icon⟩
  · exact ⟨_, _, rfl, isStatementOpening_version⟩
  · exact ⟨_, _, rfl, isStatementOpening_domversion⟩

theorem exists_opening {l : Line} (hl : l ∈ h.lines) : ∃ p s, l = p ++ s ∧ IsOpening p := by
  rw [lines_eq, List.mem_cons, List.mem_cons] at hl
  rcases hl with rfl | rfl | hl
  · exact ⟨_, _, rfl, isStatementOpening_modname.toIsOpening⟩
  · exact ⟨_, _, rfl, isOpening_description⟩
  · obtain ⟨p, s, line_eq, opening⟩ := h.exists_of_mem_moreLines hl
    exact ⟨p, s, line_eq, opening.toIsOpening⟩

/-- The first line of a setting speaks about the mod. -/
private theorem speaks_of_beginsSetting {i : Nat} (begins : h.BeginsSetting i) {view : Line → Line}
    (hv : view ∈ readings) : ∃ l, (h.readBack.map view)[i]? = some l ∧
      (isMetadata l = true ∨ isDescriptionStart l = true) := by
  obtain ⟨k, lt, rfl⟩ := begins
  obtain ⟨p, s, line_eq, opening⟩ := h.exists_opening (List.getElem_mem lt)
  obtain ⟨first, rest, lines⟩ := List.exists_cons_of_ne_nil (splitLines_feed_ne_nil s)
  have split := splitLines_append_of_unbroken opening.unbroken lines
  have cut : h.readBack = splitLines (joinLines (h.lines.take k)) ++
      ((p ++ first) :: (rest ++ splitLines (joinLines (h.lines.drop (k + 1))))) := by
    rw [readBack]
    conv => lhs; rw [← List.take_append_drop k h.lines]
    rw [List.drop_eq_getElem_cons lt, splitLines_joinLines_append, splitLines_joinLines_cons, line_eq, split,
      List.cons_append]
  refine ⟨p ++ view first, ?_, opening.speaks _⟩
  rw [cut, List.getElem?_map, List.getElem?_append_right (Nat.le_refl _), Nat.sub_self, List.getElem?_cons_zero,
    Option.map_some, reading_append opening.readable hv]

/-- Which lines make the header content, or leave a description open. -/
theorem passesOver_readBack_iff {view : Line → Line} (hv : view ∈ readings) : PassesOver (h.readBack.map view) ↔
    (∀ i < h.readBack.length, ¬ h.BeginsSetting i →
      InDescription (h.readBack.map view) i ∨ Shows (h.readBack.map view) i isMetadata) ∧
      ∀ s, ¬ OpenDescription (h.readBack.map view) h.readBack.length s := by
  rw [passesOver_iff, List.length_map]
  refine and_congr_left fun _ => ?_
  have first : h.BeginsSetting 0 := ⟨0, by simp [lines_eq], rfl⟩
  constructor
  · intro none_remains i lt later
    refine Classical.not_not.1 fun content => ?_
    rw [not_or] at content
    exact none_remains i ⟨by simpa using lt, content.1, content.2, fun blank => later (blank.1 ▸ first)⟩
  · intro others i remains
    have lt : i < h.readBack.length := by simpa using remains.lt
    by_cases begins : h.BeginsSetting i
    · obtain ⟨l, line, metadata | start⟩ := h.speaks_of_beginsSetting begins hv
      · exact remains.not_metadata ⟨l, line, metadata⟩
      · -- a line that looks like a description is in one, be it another
        refine remains.not_description (inDescription_iff.2 ?_)
        rw [beginsDescription_iff, shows_iff line]
        by_cases inside : ∃ s, OpenDescription (h.readBack.map view) i s
        · exact Or.inl inside
        · exact Or.inr ⟨start, not_exists.1 inside⟩
    · rcases others i lt begins with inside | metadata
      · exact remains.not_description inside
      · exact remains.not_metadata metadata

/-! ### Settings of one line -/

/-- The settings other than the description have no line ends. -/
structure IsFlat : Prop where
  modname : IsUnbroken h.modname.toList
  icon : IsUnbroken h.icon.toList
  version : IsUnbroken h.version.toList
  domversion : IsUnbroken h.domversion.toList

private theorem isUnbroken_quoted {start : Line} {text : String} (hs : IsUnbroken start)
    (ht : IsUnbroken text.toList) : IsUnbroken (quoted start text) :=
  hs.append (ht.append (by decide))

private theorem splitLines_of_isUnbroken {l : Line} (unbroken : IsUnbroken l) : splitLines (l ++ ['\n']) = [l] := by
  have lines : splitLines (joinLines [l]) = [l] := splitLines_joinLines fun m hm => by
    rwa [List.mem_singleton.1 hm]
  simpa [joinLines] using lines

variable {h}

theorem IsFlat.moreLines (flat : h.IsFlat) : ∀ l ∈ h.moreLines, IsUnbroken l := by
  intro l hl
  simp only [Header.moreLines, List.mem_append, mem_optional_iff] at hl
  rcases hl with (⟨-, rfl⟩ | ⟨-, rfl⟩) | ⟨-, rfl⟩
  · exact isUnbroken_quoted isStatementOpening_icon.unbroken flat.icon
  · exact isStatementOpening_version.unbroken.append flat.version
  · exact isStatementOpening_domversion.unbroken.append flat.domversion

theorem IsFlat.readBack_eq (flat : h.IsFlat) :
    h.readBack = quoted nameStart h.modname :: (splitLines (quoted descriptionStart h.description ++ ['\n']) ++ h.moreLines) := by
  have name : IsUnbroken (quoted nameStart h.modname) := isUnbroken_quoted isStatementOpening_modname.unbroken flat.modname
  rw [readBack, lines_eq, splitLines_joinLines_cons, splitLines_joinLines_cons, splitLines_joinLines flat.moreLines,
    splitLines_of_isUnbroken name, List.singleton_append]

section View

variable {view : Line → Line} (hv : view ∈ readings)

include hv

private theorem hasQuote_reading (l : Line) : hasQuote (view l) = hasQuote l := by
  rw [Bool.eq_iff_iff, hasQuote, hasQuote, decide_eq_true_iff, decide_eq_true_iff, ← List.count_pos_iff,
    ← List.count_pos_iff, count_quote_reading hv]

private theorem isStatement_reading {p : Line} (opening : IsStatementOpening p) (s : Line) : IsStatement (view (p ++ s)) := by
  rw [reading_append opening.readable hv]
  exact opening.statement _

private theorem any_hasQuote_moreLines : (h.moreLines.map view).any hasQuote = true ↔
    h.icon ≠ "" ∨ '"' ∈ h.version.toList ∨ '"' ∈ h.domversion.toList := by
  have bare : ∀ {p : Line} {text : String}, '"' ∉ p → ((text ≠ "" ∧ hasQuote (p ++ text.toList) = true) ↔
      '"' ∈ text.toList) := by
    intro p text no_quote
    rw [hasQuote, decide_eq_true_iff, List.mem_append, or_iff_right no_quote]
    refine and_iff_right_of_imp ?_
    rintro quote rfl
    cases quote
  have ends : ∀ start text, hasQuote (quoted start text) = true := fun start text => by simp [quoted, hasQuote]
  have no_quote_version : '"' ∉ versionStart := by decide
  have no_quote_domversion : '"' ∉ domversionStart := by decide
  rw [← bare no_quote_version, ← bare no_quote_domversion]
  simp only [List.any_map, List.any_eq_true, Function.comp, hasQuote_reading hv, moreLines, List.mem_append,
    mem_optional_iff, or_and_right, exists_or, and_assoc, exists_eq_left, ends, and_true, or_assoc, exists_and_left]

/-- Behind the description the header goes on with statements. -/
private theorem absorbAll_readBack (flat : h.IsFlat) {st : ScanState} (described :
    ScanState.initial.absorbAll 1 ((splitLines (quoted descriptionStart h.description ++ ['\n'])).map view) = some st) :
    ScanState.initial.absorbAll 0 (h.readBack.map view) =
      some (if (h.moreLines.map view).any hasQuote then { st with description := none } else st) := by
  have name : IsStatement (view (quoted nameStart h.modname)) := isStatement_reading hv isStatementOpening_modname _
  have more : ∀ l ∈ h.moreLines.map view, IsStatement l := by
    intro l hl
    obtain ⟨m, hm, rfl⟩ := List.mem_map.1 hl
    obtain ⟨p, s, rfl, opening⟩ := h.exists_of_mem_moreLines hm
    exact isStatement_reading hv opening s
  have first : ScanState.initial.absorb 0 (view (quoted nameStart h.modname)) = some ScanState.initial := by
    rw [ScanState.absorb_statement name]
    split <;> rfl
  rw [flat.readBack_eq, List.map_cons, List.map_append, ScanState.absorbAll, first, Option.bind_some,
    ScanState.absorbAll_append, described, Option.bind_some, ScanState.absorbAll_statements more]

/-- The first line of the description opens one, or is a statement. -/
private theorem absorb_description (s : Line) :
    ScanState.initial.absorb 1 (view (descriptionStart ++ s)) =
      some (if s.count '"' % 2 = 0 then ⟨some 1, none⟩ else ScanState.initial) := by
  have quotes : oddQuotes (view (descriptionStart ++ s)) = decide (s.count '"' % 2 = 0) := by
    have count_eq : (descriptionStart ++ s).count '"' = 1 + s.count '"' := List.count_append
    rw [oddQuotes, count_quote_reading hv, count_eq, Bool.eq_iff_iff, decide_eq_true_iff, decide_eq_true_iff]
    omega
  have keyword : hasKeyword "description" (view (descriptionStart ++ s)) = true := by
    rw [reading_append isOpening_description.readable hv]
    rfl
  have start : isDescriptionStart (view (descriptionStart ++ s)) = decide (s.count '"' % 2 = 0) := by
    rw [isDescriptionStart, keyword, quotes, Bool.true_and]
  have metadata := metadata_or_start keyword
  rw [start] at metadata
  unfold ScanState.absorb
  simp only [isDescriptionStart_trim, isMetadata_trim, start]
  by_cases even : s.count '"' % 2 = 0 <;> simp_all [ScanState.initial]

/-- Without line ends the settings leave a description open exactly if that of the header has an odd number of quotation
marks and none follows. -/
private theorem passesOver_of_unbroken (flat : h.IsFlat) (unbroken : IsUnbroken h.description.toList) :
    (∃ st, ScanState.initial.absorbAll 0 (h.readBack.map view) = some st) ∧
      (PassesOver (h.readBack.map view) ↔ h.description.toList.count '"' % 2 = 0 ∨ h.icon ≠ "" ∨
        '"' ∈ h.version.toList ∨ '"' ∈ h.domversion.toList) := by
  have line : splitLines (quoted descriptionStart h.description ++ ['\n']) = [quoted descriptionStart h.description] :=
    splitLines_of_isUnbroken (isUnbroken_quoted isOpening_description.unbroken unbroken)
  have described := absorb_description hv (h.description.toList ++ ['"'])
  have passed := absorbAll_readBack hv flat
    (by rw [line, List.map_singleton, ScanState.absorbAll, quoted, described]; rfl)
  refine ⟨⟨_, passed⟩, ?_⟩
  have count_eq : (h.description.toList ++ ['"']).count '"' = h.description.toList.count '"' + 1 := List.count_append
  rw [← any_hasQuote_moreLines hv, PassesOver, passed, count_eq]
  simp only [Option.some.injEq, exists_eq_left']
  by_cases even : h.description.toList.count '"' % 2 = 0
  · have odd : ¬ (h.description.toList.count '"' + 1) % 2 = 0 := by omega
    simp [even, odd, ScanState.initial]
  · have even' : (h.description.toList.count '"' + 1) % 2 = 0 := by omega
    cases closes : (h.moreLines.map view).any hasQuote <;> simp [even, even']

/-- A description without quotation marks may have several lines. -/
private theorem passesOver_of_no_quote (flat : h.IsFlat) (no_quote : '"' ∉ h.description.toList) :
    PassesOver (h.readBack.map view) := by
  obtain ⟨front, last, lines, last_sub, front_sub⟩ :=
    exists_splitLines_append_char h.description.toList (show '"' ≠ '\n' by decide) (by decide)
  have no_quote_front : ∀ l ∈ front, '"' ∉ l := fun l hl quote => no_quote (front_sub l hl quote)
  have no_quote_last : '"' ∉ last := fun quote => no_quote (last_sub quote)
  have described : ScanState.initial.absorbAll 1 ((splitLines (quoted descriptionStart h.description ++ ['\n'])).map view) =
      some ScanState.initial := by
    cases front with
    | nil =>
      have line := splitLines_append_of_unbroken isOpening_description.unbroken lines
      have even : ¬ (last ++ ['"']).count '"' % 2 = 0 := by
        simp [List.count_append, List.count_eq_zero_of_not_mem no_quote_last]
      rw [quoted, line, List.map_singleton, ScanState.absorbAll, absorb_description hv, if_neg even]
      rfl
    | cons first front =>
      rw [List.cons_append] at lines
      have line := splitLines_append_of_unbroken isOpening_description.unbroken lines
      have odd : first.count '"' % 2 = 0 := by
        rw [List.count_eq_zero_of_not_mem (no_quote_front first (by simp))]
      have inside : ∀ l ∈ front.map view, '"' ∉ l := by
        intro l hl
        obtain ⟨m, hm, rfl⟩ := List.mem_map.1 hl
        rw [← List.count_eq_zero, count_quote_reading hv, List.count_eq_zero]
        exact no_quote_front m (List.mem_cons_of_mem first hm)
      have closes : '"' ∈ view (last ++ ['"']) := by
        rw [← List.count_pos_iff, count_quote_reading hv, List.count_pos_iff]
        simp
      rw [quoted, line, List.map_cons, ScanState.absorbAll, absorb_description hv, if_pos odd,
        Option.bind_some, List.map_append, ScanState.absorbAll_append, ScanState.absorbAll_of_open inside, Option.bind_some,
        List.map_singleton, ScanState.absorbAll]
      simp [ScanState.absorb, quote_mem_trim_iff, closes, ScanState.absorbAll, ScanState.initial]
  refine ⟨_, absorbAll_readBack hv flat described, ?_⟩
  split <;> rfl

end View

end Header

/-- The header of a merged mod, split into lines and read from the first one on, is passed over exactly if every line but
the first ones of the settings is in a description or speaks about the mod, and no description is open at its end.  If
no setting has a line end, all its lines are passed over, and a description is left open exactly if the description of
the header has an odd number of quotation marks and no quotation mark comes after it.  The description may have several
lines, if it has no quotation mark.  Where the header is passed over, the lines behind it are read as if nothing stood in
front of them. -/
theorem header_passed_over (h : Header) :
    (∀ view ∈ readings, PassesOver (h.readBack.map view) ↔
      (∀ i < h.readBack.length, ¬ h.BeginsSetting i →
        InDescription (h.readBack.map view) i ∨ Shows (h.readBack.map view) i isMetadata) ∧
        ∀ s, ¬ OpenDescription (h.readBack.map view) h.readBack.length s) ∧
      (h.IsFlat → IsUnbroken h.description.toList → ∀ view ∈ readings,
        (∃ st, ScanState.initial.absorbAll 0 (h.readBack.map view) = some st) ∧
          (PassesOver (h.readBack.map view) ↔ h.description.toList.count '"' % 2 = 0 ∨ h.icon ≠ "" ∨
            '"' ∈ h.version.toList ∨ '"' ∈ h.domversion.toList)) ∧
      (h.IsFlat → '"' ∉ h.description.toList → ∀ view ∈ readings, PassesOver (h.readBack.map view)) ∧
      (PassesOver (h.readBack.map clean) → ∀ (m : ModFile) (body : List Line), m.content = joinLines (h.lines ++ body) →
        Definition.read m Signal.never =
          (readFrom m.name Signal.never ScanState.initial h.readBack.length (splitLines (joinLines body))).map
            fun (occurrences, blocks) => ⟨m, occurrences, blocks⟩) := by
  refine ⟨fun view hv => h.passesOver_readBack_iff hv, fun flat unbroken view hv => ?_, fun flat no_quote view hv => ?_,
    fun passes m body text => ?_⟩
  · exact Header.passesOver_of_unbroken hv flat unbroken
  · exact Header.passesOver_of_no_quote hv flat no_quote
  · rw [Definition.read, ModFile.lines, text, splitLines_joinLines_append, ← Header.readBack,
      readFrom_append (passesOver_iff_initial.1 passes), Nat.zero_add]

/-- A description with a single quotation mark, behind which no other follows. -/
def swallowingHeader : Header := { description := "a\"b" }

/-- A name with a line end, behind which a command stands. -/
def leakingHeader : Header := { modname := "x\n#newmonster 5000" }

/-- Not every header is passed over: the one leaves a description open that swallows the lines behind it, and a line of
the other is content. -/
theorem not_passesOver_readBack : ¬ (∀ h : Header, PassesOver h.readBack) ∧
    ScanState.initial.absorbAll 0 swallowingHeader.readBack = some ⟨some 1, none⟩ ∧
    ScanState.initial.absorbAll 0 leakingHeader.readBack = none := by
  have swallows : ScanState.initial.absorbAll 0 swallowingHeader.readBack = some ⟨some 1, none⟩ := by decide +kernel
  refine ⟨fun all => ?_, swallows, by decide +kernel⟩
  obtain ⟨st, passed, closed⟩ := all swallowingHeader
  rw [swallows] at passed
  rw [← Option.some.inj passed] at closed
  cases closed

/-- A description of two lines and a version. -/
def storyHeader : Header := { description := "Two armies\nmeet." }

/-- The header is passed over, and the monster behind it is found on line number 4. -/
theorem storyHeader_passed_over : storyHeader.readBack =
      ["#modname \"Merged Mod\"", "#description \"Two armies", "meet.\"", "#version 1.0"].map String.toList ∧
    (∀ view ∈ readings, PassesOver (storyHeader.readBack.map view)) ∧
    Definition.read (ModFile.named "story" (joinLines (storyHeader.lines ++ ["#newmonster 5000".toList]))) Signal.never =
      .ok ⟨ModFile.named "story" (joinLines (storyHeader.lines ++ ["#newmonster 5000".toList])),
        [⟨⟨.monster, 5000⟩, .declaration, 4, "newmonster".toList⟩], []⟩ := by
  have lines : storyHeader.readBack =
      ["#modname \"Merged Mod\"", "#description \"Two armies", "meet.\"", "#version 1.0"].map String.toList := by
    decide +kernel
  obtain ⟨-, -, spread, reads⟩ := header_passed_over storyHeader
  have flat : storyHeader.IsFlat := ⟨by decide, by decide, by decide, by decide⟩
  have passes : ∀ view ∈ readings, PassesOver (storyHeader.readBack.map view) := spread flat (by decide)
  refine ⟨lines, passes, ?_⟩
  have body : readFrom "story" Signal.never ScanState.initial 4 ["#newmonster 5000".toList] =
      .ok ([⟨⟨.monster, 5000⟩, .declaration, 4, "newmonster".toList⟩], []) := by rfl
  rw [reads (passes clean (by simp [readings])) _ ["#newmonster 5000".toList] rfl, lines]
  exact congrArg (Except.map _) body

end ModWeave
