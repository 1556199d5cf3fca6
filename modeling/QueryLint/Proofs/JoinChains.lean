import QueryLint.Proofs.JoinParts

/-!
Chains of joins. A chain is cut before the modifiers of each join, so the names of its parts are
those of its tables, and a statement with a join has no implicit one. With the lists that commas
separate this gives what is read back from every way to write tables.
-/

namespace QueryLint

open Keyword Scan TableList

abbrev WrittenModifier := { word : Text // joinModifiers.any (Text.sameLetters word) }

structure JoinedTable where
  before : Gap
  modifiers : List (WrittenModifier × Gap)
  keyword : { word : Text // isJoin word }
  space : Gap
  table : WrittenTable
  condition : Option JoinCondition

structure JoinChain where
  first : WrittenTable
  joins : List JoinedTable

def modifiersText (modifiers : List (WrittenModifier × Gap)) : Text :=
  modifiers.flatMap fun modifier => modifier.1.1 ++ modifier.2.1

namespace JoinedTable

def part (joined : JoinedTable) : Text :=
  joined.space.1 ++ (joined.table.text ++ conditionText joined.condition)

def text (joined : JoinedTable) : Text :=
  joined.before.1 ++ (modifiersText joined.modifiers ++ (joined.keyword.1 ++ joined.part))

end JoinedTable

namespace JoinChain

def text (chain : JoinChain) : Text := chain.first.text ++ chain.joins.flatMap JoinedTable.text

/-- The last names of the paths to the tables. -/
def names (chain : JoinChain) : List Text :=
  chain.first.name.word :: chain.joins.map (·.table.name.word)

end JoinChain

section Modifiers

theorem WrittenModifier.isName (modifier : WrittenModifier) :
    modifier.1 ≠ [] ∧ ∀ c ∈ modifier.1, isNameChar c := by
  obtain ⟨part, hpart, hsame⟩ := List.any_eq_true.mp modifier.2
  have hletters : ∀ part ∈ joinModifiers, isLetters part := by decide
  exact isNameChar_of_sameLetters hsame (hletters part hpart)

theorem runs_word_gap {word : Text} (hne : word ≠ []) (hword : ∀ c ∈ word, isNameChar c) (gap : Gap)
    (position : Nat) (rest : List Marked) :
    runs position (asCode word ++ (asCode gap.1 ++ rest)) =
      ⟨position, position + word.length⟩ ::
        runs (position + word.length + gap.1.length) rest := by
  have hne' : asCode word ≠ [] := by simpa [asCode] using hne
  rw [runs_word_append position hne' (isWord_of_isName hword) (gap.isWord_head rest),
    runs_append_of_not_word _ gap.isWord]
  simp [asCode]

theorem joinStart_modifiers {text rest : Text} (modifiers : List (WrittenModifier × Gap))
    (position : Nat) (before : List Span)
    (htext : text.drop position = modifiersText modifiers ++ rest) :
    joinStart text (position + (modifiersText modifiers).length)
      ((runs position (asCode (modifiersText modifiers))).reverse ++ before) =
        joinStart text position before := by
  induction modifiers generalizing position before with
  | nil => rfl
  | cons modifier modifiers ih =>
    obtain ⟨word, gap⟩ := modifier
    set next := position + word.1.length + gap.1.length with hnext
    have hmodifiers : modifiersText ((word, gap) :: modifiers) =
        word.1 ++ (gap.1 ++ modifiersText modifiers) := by
      simp [modifiersText]
    have hruns : runs position (asCode (modifiersText ((word, gap) :: modifiers))) =
        ⟨position, position + word.1.length⟩ :: runs next (asCode (modifiersText modifiers)) := by
      rw [hmodifiers, asCode, List.map_append, List.map_append]
      exact runs_word_gap word.isName.1 word.isName.2 gap position _
    have hstop : position + (modifiersText ((word, gap) :: modifiers)).length =
        next + (modifiersText modifiers).length := by
      simp only [hmodifiers, hnext, List.length_append]
      omega
    rw [hmodifiers, List.append_assoc, List.append_assoc] at htext
    have hrest : text.drop next = modifiersText modifiers ++ rest := by
      rw [hnext, Nat.add_assoc, ← List.drop_drop, htext, ← List.length_append, ← List.append_assoc,
        List.drop_left]
    have hslice : (Span.mk position (position + word.1.length)).slice text = word.1 := by
      simp [Span.slice, htext]
    have hblank : blankBetween text (position + word.1.length) next := by
      have hgap : (Span.mk (position + word.1.length) next).slice text = gap.1 := by
        rw [Span.slice, ← List.drop_drop, htext, List.drop_left, hnext, Nat.add_sub_cancel_left,
          List.take_left]
      rw [blankBetween, hgap]
      exact gap.2.2
    rw [hruns, hstop, List.reverse_cons, List.append_assoc, ih next _ hrest, List.singleton_append,
      joinStart, hslice, hblank, word.2]
    rfl

end Modifiers

section Steps

variable {text : Text} {front marks rest : List Marked}

theorem joinSegments_append {start : Nat} {before later : List Span} (words : List Span)
    (h : ∀ word ∈ later, isJoin (word.slice text) = false) :
    joinSegments text start before (later ++ words) =
      joinSegments text start (later.reverse ++ before) words := by
  induction later generalizing before with
  | nil => rfl
  | cons word later ih =>
    obtain ⟨hword, hlater⟩ := List.forall_mem_cons.mp h
    have hnot : ¬isJoin (word.slice text) := by simp [hword]
    rw [List.cons_append, joinSegments, if_neg hnot, ih hlater]
    simp

theorem joinSegments_pass (hwords : NoWord "JOIN" marks) (hapart : Apart marks rest)
    (hscan : scan text = front ++ (marks ++ rest)) (start : Nat) (before : List Span) :
    joinSegments text start before (runs front.length (marks ++ rest)) =
      joinSegments text start ((runs front.length marks).reverse ++ before)
        (runs (front.length + marks.length) rest) := by
  rw [runs_append _ hapart]
  exact joinSegments_append _ (hwords.sameLetters (drop_of_scan_eq hscan))

theorem joinSegments_join {keyword : Text} (hkeyword : isJoin keyword)
    (hwords : NoWord "JOIN" marks) (hlast : ∀ mark ∈ marks.getLast?, mark.isWord = false)
    (hne : marks ≠ []) (hapart : Apart front marks) (hrest : ∀ mark ∈ rest.head?, mark.isWord = false)
    (hscan : scan text = front ++ (marks ++ (asCode keyword ++ rest))) :
    let next := front ++ (marks ++ asCode keyword)
    joinSegments text front.length (runs 0 front).reverse
      (runs front.length (marks ++ (asCode keyword ++ rest))) =
        ⟨front.length, joinStart text (front.length + marks.length)
          ((runs front.length marks).reverse ++ (runs 0 front).reverse)⟩ ::
            joinSegments text next.length (runs 0 next).reverse (runs next.length rest) := by
  intro next
  obtain ⟨hkeywordNe, hname⟩ := isNameChar_of_sameLetters hkeyword (by decide)
  have hkeywordNe' : asCode keyword ≠ [] := by simpa [asCode] using hkeywordNe
  have hruns := fun position => runs_word_append position hkeywordNe' (isWord_of_isName hname) hrest
  have hjoin := runs_word_append (front.length + marks.length) hkeywordNe' (isWord_of_isName hname)
    (by simp : ∀ mark ∈ ([] : List Marked).head?, mark.isWord = false)
  have hslice := slice_of_drop_eq (drop_of_drop_eq (drop_of_scan_eq hscan))
  rw [map_fst_asCode] at hslice
  have hnext : (runs 0 next).reverse =
      ⟨front.length + marks.length, front.length + marks.length + (asCode keyword).length⟩ ::
        ((runs front.length marks).reverse ++ (runs 0 front).reverse) := by
    rw [List.append_nil, show runs _ [] = [] from rfl] at hjoin
    rw [runs_append 0 (hapart.append_right hne _), Nat.zero_add, runs_append _ (.inl hlast), hjoin]
    simp
  have hlength : next.length = front.length + marks.length + (asCode keyword).length := by
    simp only [next, List.length_append]
    omega
  rw [joinSegments_pass hwords (.inl hlast) hscan, hruns, joinSegments, hslice, if_pos hkeyword, hnext,
    hlength]

end Steps

section Chains

theorem isPlain_modifiers (modifiers : List (WrittenModifier × Gap)) :
    ∀ c ∈ modifiersText modifiers, isPlain c := by
  intro c hc
  obtain ⟨modifier, -, hc⟩ := List.mem_flatMap.mp hc
  rcases List.mem_append.mp hc with hword | hgap
  · exact isPlain_of_isNameChar (modifier.1.isName.2 c hword)
  · exact isPlain_of_isBreak modifier.2.isBreak c hgap

theorem noWord_modifiers (modifiers : List (WrittenModifier × Gap)) :
    NoWord "JOIN" (asCode (modifiersText modifiers)) := by
  induction modifiers with
  | nil => exact noWord_of_not_word (by simp [modifiersText, asCode])
  | cons modifier modifiers ih =>
    obtain ⟨word, gap⟩ := modifier
    obtain ⟨part, hpart, hsame⟩ := List.any_eq_true.mp word.2
    have hletters : ∀ part ∈ joinModifiers, isLetters part ∧
        ∀ other ∈ [part], Text.sameLetters other "JOIN" = false := by
      decide
    obtain ⟨hisLetters, hother⟩ := hletters part hpart
    have hspells : Spells Marked.isBlank [part] (asCode word.1) :=
      .last (spellsWord_asCode hsame hisLetters)
    have hword := noWord_of_spells hspells hother
    have hgap : NoWord "JOIN" (asCode gap.1) := noWord_of_not_word gap.isWord
    have hrest := hgap.append ih (.inl (gap.isWord_getLast []))
    have hall := hword.append hrest (.inr (gap.isWord_head _))
    simpa [modifiersText, asCode] using hall

namespace JoinedTable

/-- What stands between two tables before the word JOIN. -/
def lead (joined : JoinedTable) : Text := joined.before.1 ++ modifiersText joined.modifiers

theorem isPlain_lead (joined : JoinedTable) : ∀ c ∈ joined.lead, isPlain c :=
  List.forall_mem_append.mpr
    ⟨isPlain_of_isBreak joined.before.isBreak, isPlain_modifiers joined.modifiers⟩

theorem last_lead (joined : JoinedTable) :
    ∀ mark ∈ (asCode joined.lead).getLast?, mark.isWord = false := by
  obtain ⟨before, modifiers, keyword, space, table, condition⟩ := joined
  obtain ⟨front, gap, hlead⟩ : ∃ front, ∃ gap : Gap,
      lead ⟨before, modifiers, keyword, space, table, condition⟩ = front ++ gap.1 := by
    rcases List.eq_nil_or_concat' modifiers with rfl | ⟨init, modifier, rfl⟩
    · exact ⟨[], before, by simp [lead, modifiersText]⟩
    · exact ⟨before.1 ++ (modifiersText init ++ modifier.1.1), modifier.2,
        by simp [lead, modifiersText]⟩
  rw [hlead, asCode_append]
  exact gap.isWord_getLast _

theorem noWord_lead (joined : JoinedTable) : NoWord "JOIN" (asCode joined.lead) := by
  rw [lead, asCode_append]
  exact (noWord_of_not_word joined.before.isWord).append (noWord_modifiers joined.modifiers)
    (.inl (joined.before.isWord_getLast []))

theorem text_eq (joined : JoinedTable) :
    joined.text = joined.lead ++ (joined.keyword.1 ++ joined.part) := by
  simp [text, lead]

theorem lead_ne_nil (joined : JoinedTable) : asCode joined.lead ≠ [] := by
  simp [lead, asCode, joined.before.2.1]

theorem isBlank_lead (joined : JoinedTable) (more : Text) :
    ∀ c ∈ (joined.lead ++ more).head?, Text.isBlank c := by
  rw [lead, List.append_assoc]
  exact joined.before.isBlank_head _

theorem scan_lead (joined : JoinedTable) (rest : Text) :
    scan (joined.lead ++ (joined.keyword.1 ++ (joined.part ++ rest))) =
      asCode joined.lead ++ (asCode joined.keyword.1 ++ scan (joined.part ++ rest)) := by
  have hkeyword := (isNameChar_of_sameLetters joined.keyword.2 (by decide)).2
  rw [scan_append_of_plain _ joined.isPlain_lead,
    scan_append_of_plain _ (isPlain_of_isName hkeyword)]

theorem isWord_part (joined : JoinedTable) (rest : Text) :
    ∀ mark ∈ (scan (joined.part ++ rest)).head?, mark.isWord = false := by
  rw [part, List.append_assoc]
  exact isWord_head_scan fun c hc =>
    isNameChar_of_isBlank (joined.space.isBlank_head _ c hc)

end JoinedTable

/-- The walk back from a join comes to the white space before its modifiers. -/
theorem joinStart_lead {text more : Text} {front marks : List Marked} (joined : JoinedTable)
    (before : List Span)
    (hscan : scan text = front ++ (marks ++ (asCode joined.lead ++ scan more))) :
    joinStart text (front.length + (marks ++ asCode joined.lead).length)
      ((runs front.length (marks ++ asCode joined.lead)).reverse ++ before) =
        joinStart text (front.length + marks.length + joined.before.1.length)
          ((runs front.length marks).reverse ++ before) := by
  set position := front.length + marks.length + joined.before.1.length with hposition
  have hlead : asCode joined.lead =
      asCode joined.before.1 ++ asCode (modifiersText joined.modifiers) := asCode_append _ _
  have hruns : runs front.length (marks ++ asCode joined.lead) =
      runs front.length marks ++ runs position (asCode (modifiersText joined.modifiers)) := by
    have hgap : Apart marks
        (asCode joined.before.1 ++ asCode (modifiersText joined.modifiers)) :=
      .inr (joined.before.isWord_head _)
    rw [hlead, runs_append _ hgap, runs_append_of_not_word _ joined.before.isWord, length_asCode]
  have hlength : front.length + (marks ++ asCode joined.lead).length =
      position + (modifiersText joined.modifiers).length := by
    simp only [hposition, hlead, length_asCode, List.length_append]
    omega
  have hdrop : text.drop position = modifiersText joined.modifiers ++ more := by
    have hback := drop_of_drop_eq (drop_of_scan_eq hscan)
    rw [hlead, List.append_assoc] at hback
    have hmore := drop_of_drop_eq hback
    rw [length_asCode] at hmore
    simpa using hmore
  rw [hruns, hlength, List.reverse_append, List.append_assoc,
    joinStart_modifiers joined.modifiers position _ hdrop]

variable {text after : Text} (hafter : Text.allBlank after)
include hafter

theorem flatMap_partNames_nil (front : List Marked) (table : WrittenTable)
    (condition : Option JoinCondition) {space : Text} (hspace : Text.allBlank space)
    (hscan : scan text =
      front ++ scan (space ++ (table.text ++ (conditionText condition ++ after)))) :
    (joinSegments text front.length (runs 0 front).reverse
      (runs front.length (scan (space ++ (table.text ++ (conditionText condition ++ after)))))).flatMap
          (fun segment => partNames (segment.slice text)) = [table.name.word] := by
  have hblank := isBreak_of_allBlank hafter
  have hhead : ∀ c ∈ after.head?, Text.isBlank c :=
    fun c hc => List.all_eq_true.mp hafter c (List.mem_of_mem_head? hc)
  have hscanPart := scan_part table condition hspace hhead
  have hdrop : text.drop front.length =
      space ++ (table.text ++ (conditionText condition ++ after)) := by
    rw [drop_of_scan_eq hscan, map_fst_scan]
  have hlength := congrArg List.length hdrop
  have hslice : (Span.mk front.length text.length).slice text =
      space ++ (table.text ++ (conditionText condition ++ after)) := by
    rw [Span.slice, hdrop]
    apply List.take_of_length_le
    rw [← hlength, List.length_drop]
  rw [hscanPart] at hscan ⊢
  rw [joinSegments_pass (noWord_part table condition hspace) (apart_right hblank _) hscan,
    scan_of_isBreak hblank, runs_eq_nil _ (isWord_of_isBreak hblank), joinSegments,
    List.flatMap_singleton, hslice]
  exact partNames_part table condition hspace hafter

omit hafter in
/-- One table is read with what follows it up to the next word JOIN. -/
theorem flatMap_partNames_cons (front : List Marked) (table : WrittenTable)
    (condition : Option JoinCondition) (joined : JoinedTable) (rest : Text) {space : Text}
    (hspace : Text.allBlank space)
    (hapart : Apart front (scan (space ++ (table.text ++ conditionText condition))))
    (hscan : scan text = front ++
      scan (space ++ (table.text ++ (conditionText condition ++ (joined.text ++ rest))))) :
    ∃ next, scan text = next ++ scan (joined.part ++ rest) ∧
      (joinSegments text front.length (runs 0 front).reverse (runs front.length
        (scan (space ++ (table.text ++ (conditionText condition ++ (joined.text ++ rest))))))).flatMap
          (fun segment => partNames (segment.slice text)) =
        table.name.word ::
          (joinSegments text next.length (runs 0 next).reverse
            (runs next.length (scan (joined.part ++ rest)))).flatMap
              (fun segment => partNames (segment.slice text)) := by
  set more := joined.keyword.1 ++ (joined.part ++ rest) with hmore
  have htail : joined.text ++ rest = joined.lead ++ more := by
    simp [joined.text_eq, hmore]
  have hmarks := scan_part table condition hspace (joined.isBlank_lead more)
  have hbefore : scan (joined.lead ++ more) =
      scan (joined.before.1 ++ (modifiersText joined.modifiers ++ more)) := by
    simp [JoinedTable.lead]
  rw [htail, hmarks] at hscan ⊢
  have hcut := partNames_cut table hspace joined.before condition (hbefore ▸ hscan)
  have hne : scan (space ++ (table.text ++ conditionText condition)) ≠ [] := by
    intro hnil
    have hlength := congrArg List.length hnil
    simp [table.text_ne_nil] at hlength
  have hwords := noWord_part table condition hspace
  set marks := scan (space ++ (table.text ++ conditionText condition)) with hmarksDef
  have hfollows : Apart marks (asCode joined.lead) := by
    rw [JoinedTable.lead, asCode_append]
    exact .inr (joined.before.isWord_head _)
  have hlast : ∀ mark ∈ (marks ++ asCode joined.lead).getLast?, mark.isWord = false := by
    rw [List.getLast?_append_of_ne_nil _ joined.lead_ne_nil]
    exact joined.last_lead
  have hlead : scan (joined.lead ++ more) = asCode joined.lead ++ scan more :=
    scan_append_of_plain more joined.isPlain_lead
  have hstart := joinStart_lead joined (runs 0 front).reverse (hlead ▸ hscan)
  rw [joined.scan_lead, ← List.append_assoc marks] at hscan ⊢
  refine ⟨front ++ ((marks ++ asCode joined.lead) ++ asCode joined.keyword.1), by simp [hscan], ?_⟩
  rw [joinSegments_join joined.keyword.2 (hwords.append joined.noWord_lead hfollows) hlast
    (by simp [joined.lead_ne_nil]) (hapart.append_right hne _) (joined.isWord_part rest) hscan,
    List.flatMap_cons, hstart, hmarksDef, length_scan, hcut]
  rfl

/-- The names of the parts of a chain, of which `front` has been read already. -/
theorem flatMap_partNames (joins : List JoinedTable) (front : List Marked) (table : WrittenTable)
    (condition : Option JoinCondition) {space : Text} (hspace : Text.allBlank space)
    (hapart : Apart front (scan (space ++ (table.text ++ conditionText condition))))
    (hscan : scan text = front ++ scan (space ++ (table.text ++ (conditionText condition ++
      (joins.flatMap JoinedTable.text ++ after))))) :
    (joinSegments text front.length (runs 0 front).reverse
      (runs front.length (scan (space ++ (table.text ++ (conditionText condition ++
        (joins.flatMap JoinedTable.text ++ after))))))).flatMap
          (fun segment => partNames (segment.slice text)) =
            table.name.word :: joins.map (·.table.name.word) := by
  -- `front` grows by one part and its join; the walk back from the next join may end in it
  induction joins generalizing front table condition space with
  | nil => exact flatMap_partNames_nil hafter front table condition hspace hscan
  | cons joined joins ih =>
    rw [List.flatMap_cons, List.append_assoc] at hscan ⊢
    obtain ⟨next, hnext, hstep⟩ :=
      flatMap_partNames_cons front table condition joined _ hspace hapart hscan
    have hpart : joined.part ++ (joins.flatMap JoinedTable.text ++ after) =
        joined.space.1 ++ (joined.table.text ++ (conditionText joined.condition ++
          (joins.flatMap JoinedTable.text ++ after))) := by
      simp [JoinedTable.part]
    rw [hpart] at hnext hstep
    rw [hstep, ih next joined.table joined.condition joined.space.2.2
      (apart_right_append joined.space.isBreak joined.space.2.1 _ _) hnext, List.map_cons]

end Chains

namespace JoinChain

variable (chain : JoinChain)

theorem not_absent_join (hjoins : chain.joins ≠ []) {before after : Text} {marks : List Marked}
    (hscan : scan (before ++ (chain.text ++ after)) = marks ++ scan (chain.text ++ after)) :
    ¬Absent "JOIN" (scan (before ++ (chain.text ++ after))) := by
  obtain ⟨first, joins⟩ := chain
  obtain ⟨joined, joins, rfl⟩ := List.exists_cons_of_ne_nil hjoins
  set rest := joins.flatMap JoinedTable.text ++ after with hrest
  have htext : text ⟨first, joined :: joins⟩ ++ after =
      first.text ++ (joined.lead ++ (joined.keyword.1 ++ (joined.part ++ rest))) := by
    simp [text, joined.text_eq, hrest]
  have hlast : ∀ mark ∈ (marks ++ (scan first.text ++ asCode joined.lead)).getLast?,
      mark.isWord = false := by
    rw [← List.append_assoc, List.getLast?_append_of_ne_nil _ joined.lead_ne_nil]
    exact joined.last_lead
  have hoccurs : Occurs "JOIN" (marks ++ (scan first.text ++ asCode joined.lead))
      (asCode joined.keyword.1) (scan (joined.part ++ rest)) := by
    rw [Occurs, fields_join]
    exact ⟨.last (spellsWord_asCode joined.keyword.2 (by decide)), hlast, joined.isWord_part rest⟩
  intro habsent
  refine habsent _ _ _ ?_ hoccurs
  rw [hscan, htext, first.quiet.selfContained, joined.scan_lead]
  simp

theorem tableNames_text {before after : Text} (hbefore : Text.allBlank before)
    (hafter : Text.allBlank after) : tableNames (before ++ (chain.text ++ after)) = chain.names := by
  by_cases hjoins : chain.joins = []
  -- one table is a list without commas
  · have hlist := CommaList.tableNames_text ⟨chain.first, []⟩ hbefore hafter
    simpa [CommaList.text, CommaList.names, text, names, hjoins] using hlist
  have hscan := scan_append_of_plain (chain.text ++ after)
    (isPlain_of_isBreak (isBreak_of_allBlank hbefore))
  set whole := before ++ (chain.text ++ after) with hwhole
  have hjoin : (wordSpans whole).any fun word => isJoin (word.slice whole) := by
    by_contra hnone
    have hwords : NoWord "JOIN" (scan whole) := noWord_scan fun word hword => by
      have hword := List.any_eq_false.mp (Bool.not_eq_true _ |>.mp hnone) word hword
      simpa [isJoin] using hword
    exact chain.not_absent_join hjoins hscan (hwords.absent fields_join)
  have hparts : whole = before ++ (chain.first.text ++ (conditionText none ++
      (chain.joins.flatMap JoinedTable.text ++ after))) := by
    simp [hwhole, text, conditionText]
  have hnames := flatMap_partNames hafter chain.joins [] chain.first none hbefore
    (.inl (by simp)) (congrArg scan hparts)
  rw [← hparts] at hnames
  rw [tableNames, if_pos hjoin]
  exact hnames

theorem checkTables_eq_none (hjoins : chain.joins ≠ []) {before : Text}
    (hbefore : endMode .code before = .code) (after : Text) :
    Rule.checkTables .lexical (before ++ (chain.text ++ after)) = none := by
  have hseam : ∀ c ∈ before.getLast?, opensComment c (chain.text ++ after).head? = false := by
    intro c _
    refine opensComment_of_ne fun d hd => ?_
    rw [text, List.append_assoc, List.head?_append_of_ne_nil _ chain.first.text_ne_nil] at hd
    have hpath := chain.first.ends.1 d hd
    exact ⟨ne_of_isPathChar hpath (by decide), ne_of_isPathChar hpath (by decide)⟩
  have habsent := chain.not_absent_join hjoins (scan_append hbefore hseam)
  have hkeyword : ClauseReader.lexical.hasKeyword (before ++ (chain.text ++ after)) "JOIN" := by
    by_contra hnone
    exact habsent (hasKeyword_eq_false_iff.mp (Bool.not_eq_true _ |>.mp hnone))
  rw [Rule.checkTables, hkeyword]
  cases ClauseReader.lexical.clause (before ++ (chain.text ++ after)) .source with
  | none => rfl
  | some body => rfl

end JoinChain

/-- However a list of tables is written, its names are read back, and it is an implicit join when
commas separate two tables or more; joins make none. -/
theorem tableNames_written :
    (∀ (list : CommaList) (before after : Blanks),
      tableNames (before.1 ++ (list.text ++ after.1)) = list.names ∧
        Rule.implicitJoin.check .lexical
            ("SELECT * FROM " ++ (before.1 ++ (list.text ++ after.1))) =
          if 2 ≤ list.names.length then some .implicitJoin else none) ∧
      ∀ chain : JoinChain,
        (∀ before after : Blanks,
          tableNames (before.1 ++ (chain.text ++ after.1)) = chain.names) ∧
        ∀ before after : Text, endMode .code before = .code → chain.joins ≠ [] →
          Rule.implicitJoin.check .lexical (before ++ (chain.text ++ after)) = none := by
  constructor
  · intro list before after
    exact ⟨list.tableNames_text before.2 after.2, list.checkTables_text before.2 after.2⟩
  · intro chain
    refine ⟨fun before after => chain.tableNames_text before.2 after.2, ?_⟩
    intro before after hbefore hjoins
    exact chain.checkTables_eq_none hjoins hbefore after

section Sample

theorem gap_newline : ("\n" : Text) ≠ [] ∧ Text.allBlank "\n" := by decide

/-- A keyword between quotes, with a path before it and an alias. -/
def sampleTable : WrittenTable where
  qualifiers := [⟨.brackets, "app", by decide, List.all_eq_true.mp (by decide), by decide +kernel⟩]
  name := ⟨.doubleQuotes, "Order", by decide, List.all_eq_true.mp (by decide), by decide⟩
  asName := some ⟨⟨" ", gap_space⟩, some (⟨"as", by decide⟩, ⟨"\n", gap_newline⟩),
    ⟨.bare, "o", by decide, List.all_eq_true.mp (by decide), by decide +kernel⟩⟩

def sampleName : WrittenTable where
  qualifiers := []
  name := ⟨.bare, "item_2", by decide, List.all_eq_true.mp (by decide), by decide +kernel⟩
  asName := none

def sampleList : CommaList where
  first := sampleTable
  others := [⟨⟨"", by decide⟩, ⟨" ", by decide⟩, sampleName⟩]

/-- A chain with a comma, a literal and a modifier in its condition. -/
def sampleChain : JoinChain where
  first := sampleTable
  joins := [
    { before := ⟨" ", gap_space⟩
      modifiers := [(⟨"LEFT", by decide⟩, ⟨"\t", by decide⟩), (⟨"outer", by decide⟩, ⟨" ", gap_space⟩)]
      keyword := ⟨"Join", by decide⟩
      space := ⟨" ", gap_space⟩
      table := sampleName
      condition := some
        { gap := ⟨" ", gap_space⟩
          keyword := ⟨"on", by decide⟩
          body := " f(a, b) = ' join' or left"
          head := by
            rintro c ⟨⟩
            decide
          closed := by decide +kernel
          words := by decide +kernel } },
    { before := ⟨" ", gap_space⟩
      modifiers := [(⟨"cross", by decide⟩, ⟨" ", gap_space⟩)]
      keyword := ⟨"join", by decide⟩
      space := ⟨"\n", gap_newline⟩
      table := sampleTable
      condition := none }]

theorem tableNames_written_sample :
    sampleList.text = "[app].\"Order\" as\no, item_2".toList ∧
      tableNames sampleList.text = ["Order", "item_2"] ∧
      Rule.implicitJoin.check .lexical ("SELECT * FROM " ++ sampleList.text) = some .implicitJoin ∧
      sampleChain.text = ("[app].\"Order\" as\no LEFT\touter Join item_2 on f(a, b) = ' join' " ++
        "or left cross join\n[app].\"Order\" as\no").toList ∧
      tableNames sampleChain.text = ["Order", "item_2", "Order"] ∧
      endMode .code "SELECT * FROM " = .code ∧ sampleChain.joins ≠ [] ∧
      Rule.implicitJoin.check .lexical ("SELECT * FROM " ++ sampleChain.text) = none := by
  obtain ⟨hlists, hchains⟩ := tableNames_written
  obtain ⟨hlistNames, hlistCheck⟩ := hlists sampleList ⟨[], rfl⟩ ⟨[], rfl⟩
  obtain ⟨hchainNames, hchainCheck⟩ := hchains sampleChain
  have hchain := hchainNames ⟨[], rfl⟩ ⟨[], rfl⟩
  have hmode : endMode .code "SELECT * FROM " = .code := by decide +kernel
  have hjoins : sampleChain.joins ≠ [] := by simp [sampleChain]
  have hnone := hchainCheck "SELECT * FROM " [] hmode hjoins
  rw [if_pos (by decide)] at hlistCheck
  simp only [List.nil_append, List.append_nil] at hlistNames hlistCheck hchain hnone
  exact ⟨by decide +kernel, hlistNames, hlistCheck, by decide +kernel, hchain, hmode, hjoins, hnone⟩

end Sample

end QueryLint
