import QueryLint.Proofs.WrittenTables

/-!
Lists of tables with commas between them. The names of such a list are those of its tables, in
their order, and a statement that selects from it has an implicit join exactly when the list has
more than one table.
-/

namespace QueryLint

open Keyword Scan

structure ListedTable where
  before : Blanks
  after : Blanks
  table : WrittenTable

structure CommaList where
  first : WrittenTable
  others : List ListedTable

def ListedTable.text (listed : ListedTable) : Text :=
  listed.before.1 ++ ',' :: (listed.after.1 ++ listed.table.text)

namespace CommaList

def text (list : CommaList) : Text := list.first.text ++ list.others.flatMap ListedTable.text

/-- The last names of the paths to the tables. -/
def names (list : CommaList) : List Text :=
  list.first.name.word :: list.others.map (·.table.name.word)

end CommaList

section OneTable

variable (table : WrittenTable) {before after : Text} (hbefore : Text.allBlank before)
  (hafter : Text.allBlank after)
include hbefore hafter

theorem segment_of_table :
    (∀ mark ∈ asCode before ++ (scan table.text ++ asCode after), mark.isListMark = false) ∧
      trimCode ((asCode before ++ (scan table.text ++ asCode after)).map Prod.fst) = table.text := by
  have hvisible := table.quiet.visibleWithin table.ends.1 table.ends.2 hbefore hafter
  obtain ⟨hfront, hback⟩ := hvisible.not_listMark
  constructor
  · exact List.forall_mem_append.mpr
      ⟨hfront, List.forall_mem_append.mpr ⟨table.not_listMark, hback⟩⟩
  · have hscan := table.quiet.scan_around hbefore hafter
    rw [List.map_append, List.map_append, map_fst_asCode, map_fst_asCode, map_fst_scan,
      trimCode_eq hscan hvisible, map_fst_scan]

theorem ofCommaList_table :
    TableList.ofCommaList (before ++ (table.text ++ after)) = [table.name.word] := by
  obtain ⟨hlist, htrim⟩ := segment_of_table table hbefore hafter
  have hscan := table.quiet.scan_around hbefore hafter
  have hsegments := segmentsFrom_append_left 0 [] hlist
  rw [List.append_nil, segmentsFrom, List.modifyHead_cons, List.append_nil] at hsegments
  rw [TableList.ofCommaList, splitItems_eq, hscan, itemsOf, hsegments, List.map_singleton, htrim]
  simp [table.text_ne_nil, table.bareName_text, table.name.ne_nil]

theorem ofCommaList_cons (rest : Text) :
    TableList.ofCommaList (before ++ (table.text ++ (after ++ ',' :: rest))) =
      table.name.word :: TableList.ofCommaList rest := by
  obtain ⟨hlist, htrim⟩ := segment_of_table table hbefore hafter
  have hplain : ∀ c ∈ [','], isPlain c := List.all_eq_true.mp (by decide)
  have hcomma : scan (',' :: rest) = (',', .code) :: scan rest := scan_append_of_plain rest hplain
  have hscan := (table.quiet.around hbefore hafter).selfContained (',' :: rest)
  rw [table.quiet.scan_around hbefore hafter, hcomma] at hscan
  have hsegments := segmentsFrom_append_left 0 ((',', .code) :: scan rest) hlist
  rw [segmentsFrom, if_pos (by decide), List.modifyHead_cons, List.append_nil] at hsegments
  have hitems : itemsOf (scan ((before ++ (table.text ++ after)) ++ ',' :: rest)) =
      table.text :: itemsOf (scan rest) := by
    rw [hscan, itemsOf, hsegments, List.map_cons, htrim]
    simp [table.text_ne_nil, itemsOf]
  have htext : before ++ (table.text ++ (after ++ ',' :: rest)) =
      (before ++ (table.text ++ after)) ++ ',' :: rest := by
    simp
  rw [htext, TableList.ofCommaList, TableList.ofCommaList, splitItems_eq, hitems, splitItems_eq,
    List.map_cons, table.bareName_text]
  simp [table.name.ne_nil]

end OneTable

namespace CommaList

variable (list : CommaList)

theorem ofCommaList_text {before after : Text} (hbefore : Text.allBlank before)
    (hafter : Text.allBlank after) :
    TableList.ofCommaList (before ++ (list.text ++ after)) = list.names := by
  obtain ⟨first, others⟩ := list
  induction others generalizing before first with
  | nil => simpa [text, names] using ofCommaList_table first hbefore hafter
  | cons next others ih =>
    have hrest := ih next.after.2 next.table
    have hcons := ofCommaList_cons first hbefore next.before.2
      (next.after.1 ++ (text ⟨next.table, others⟩ ++ after))
    rw [hrest] at hcons
    simpa [text, names, ListedTable.text] using hcons

/-- Commas separate the tables of a list as white space does. -/
theorem quiet : Quiet list.text := by
  obtain ⟨first, others⟩ := list
  induction others generalizing first with
  | nil => simpa [text] using first.quiet
  | cons next others ih =>
    have hbreak : ∀ c ∈ next.before.1 ++ ',' :: next.after.1, isBreak c :=
      List.forall_mem_append.mpr ⟨isBreak_of_allBlank next.before.2,
        List.forall_mem_cons.mpr ⟨by decide, isBreak_of_allBlank next.after.2⟩⟩
    have hrest := (quiet_of_isBreak hbreak).append (ih next.table) (apart_left hbreak _)
    have hall := first.quiet.append hrest (apart_right_append hbreak (by simp) _ _)
    simpa [text, ListedTable.text] using hall

theorem ends :
    (∀ c ∈ list.text.head?, isPathChar c) ∧ ∀ c ∈ list.text.getLast?, isPathChar c := by
  constructor
  · intro c hc
    rw [text, List.head?_append_of_ne_nil _ list.first.text_ne_nil] at hc
    exact list.first.ends.1 c hc
  · obtain ⟨front, table, htext⟩ :
        ∃ front, ∃ table : WrittenTable, list.text = front ++ table.text := by
      rcases List.eq_nil_or_concat' list.others with hnil | ⟨init, last, hlast⟩
      · exact ⟨[], list.first, by simp [text, hnil]⟩
      · refine ⟨list.first.text ++ (init.flatMap ListedTable.text ++
          (last.before.1 ++ ',' :: last.after.1)), last.table, ?_⟩
        simp [text, hlast, ListedTable.text]
    intro c hc
    rw [htext, List.getLast?_append_of_ne_nil _ table.text_ne_nil] at hc
    exact table.ends.2 c hc

end CommaList

section Statement

theorem mem_listWords {clause : Clause} {boundary part : Text} (hboundary : boundary ∈ clause.boundaries)
    (hpart : part ∈ Text.fields boundary) : part ∈ TableList.listWords := by
  have hword := Clause.mem_words (List.mem_cons_of_mem _ hboundary) hpart
  simp [TableList.listWords, hword]

/-- FROM stands in front of a text that keeps to itself, where nothing is before it but what is
selected. -/
theorem clauseAt_source {inner : Text} (hquiet : Quiet inner)
    (hhead : ∀ c ∈ inner.head?, isNameChar c = false) :
    ClauseAt "FROM" (Clause.boundaries .source) (asCode "SELECT * ") (asCode "FROM")
      (scan inner) [] := by
  have hplain : ∀ c ∈ ("SELECT * " : Text), isPlain c := List.all_eq_true.mp (by decide)
  have hfrom : Text.fields "FROM" = ["FROM"] := by decide
  refine ⟨⟨⟨?_, by decide, ?_⟩, ?_⟩, ?_, .inl rfl⟩
  · rw [hfrom]
    exact .last (spellsWord_asCode rfl (by decide))
  · rw [List.append_nil]
    exact isWord_head_scan hhead
  · refine noneBegins_of_noWord (fun part hpart => ?_) (.inl (by decide))
    rw [hfrom] at hpart
    obtain rfl : "FROM".toList = part := Option.some.inj hpart
    rw [← scan_of_plain hplain]
    exact noWord_scan (by decide)
  · intro boundary hboundary
    refine noneBegins_of_noWord (fun part hpart => ?_) (.inr (by simp))
    exact hquiet.noWord part (mem_listWords hboundary (List.mem_of_mem_head? hpart))

variable {before body after : Text} (hquiet : Quiet body) (hbefore : Text.allBlank before)
  (hafter : Text.allBlank after)
include hquiet hbefore hafter

theorem hasKeyword_join_of_quiet :
    ClauseReader.lexical.hasKeyword ("SELECT * FROM " ++ (before ++ (body ++ after))) "JOIN" =
      false := by
  have hplain : ∀ c ∈ ("SELECT * FROM " : Text), isPlain c := List.all_eq_true.mp (by decide)
  have hfront : NoWord "JOIN" (asCode "SELECT * FROM ") := by
    rw [← scan_of_plain hplain]
    exact noWord_scan (by decide)
  have hback := (hquiet.around hbefore hafter).noWord "JOIN" List.mem_cons_self
  apply hasKeyword_eq_false_iff.mpr
  rw [scan_append_of_plain _ hplain]
  exact (hfront.append hback (.inl (by decide))).absent fields_join

variable (hfirst : ∀ c ∈ body.head?, isPathChar c) (hlast : ∀ c ∈ body.getLast?, isPathChar c)
include hfirst hlast

theorem clause_source_of_quiet :
    ClauseReader.lexical.clause ("SELECT * FROM " ++ (before ++ (body ++ after))) .source =
      some body := by
  have hspace : Text.allBlank (' ' :: before) :=
    List.all_eq_true.mpr (List.forall_mem_cons.mpr ⟨by decide, List.all_eq_true.mp hbefore⟩)
  set inner := ' ' :: before ++ (body ++ after) with hinner
  have hquietInner : Quiet inner := hquiet.around hspace hafter
  have hscanInner := hquiet.scan_around hspace hafter
  have hvisible := hquiet.visibleWithin hfirst hlast hspace hafter
  have hplain : (∀ c ∈ ("SELECT * " : Text), isPlain c) ∧ ∀ c ∈ ("FROM" : Text), isPlain c :=
    ⟨List.all_eq_true.mp (by decide), List.all_eq_true.mp (by decide)⟩
  have hscan : scan ("SELECT * FROM " ++ (before ++ (body ++ after))) =
      asCode "SELECT * " ++ (asCode "FROM" ++ (scan inner ++ [])) := by
    have hboth := scan_append_of_plain ("FROM" ++ inner) hplain.1
    rw [scan_append_of_plain inner hplain.2] at hboth
    rw [List.append_nil]
    exact hboth
  have hclause := clauseAt_source hquietInner (by
    rintro c ⟨⟩
    decide)
  have hsemicolon : ∀ mark ∈ (scan body).getLast?, mark.1 ≠ ';' := by
    intro mark hmark
    rw [← Scan.map_fst_scan body, List.getLast?_map] at hlast
    exact ne_of_isPathChar (hlast _ (Option.mem_map_of_mem _ hmark)) (by decide)
  have htrim : trimClause inner = body := by
    rw [trimClause_eq hscanInner hvisible hsemicolon, map_fst_scan]
  have hextract := extractClause_eq_some hscan hclause
  rw [map_fst_scan, htrim] at hextract
  exact hextract

end Statement

namespace CommaList

variable (list : CommaList) {before after : Text} (hbefore : Text.allBlank before)
  (hafter : Text.allBlank after)
include hbefore hafter

theorem tableNames_text : tableNames (before ++ (list.text ++ after)) = list.names := by
  have hjoin := (list.quiet.around hbefore hafter).noWord "JOIN" List.mem_cons_self
  rw [tableNames_of_absent (hjoin.absent fields_join)]
  exact list.ofCommaList_text hbefore hafter

/-- A list of tables is an implicit join when it has more than one. -/
theorem checkTables_text :
    Rule.checkTables .lexical ("SELECT * FROM " ++ (before ++ (list.text ++ after))) =
      if 2 ≤ list.names.length then some .implicitJoin else none := by
  obtain ⟨hfirst, hlast⟩ := list.ends
  have hclause := clause_source_of_quiet list.quiet hbefore hafter hfirst hlast
  have hkeyword := hasKeyword_join_of_quiet list.quiet hbefore hafter
  have hblank : Text.allBlank [] := rfl
  have hnames := list.tableNames_text hblank hblank
  rw [List.nil_append, List.append_nil] at hnames
  have hcheck : Rule.checkTables .lexical
      ("SELECT * FROM " ++ (before ++ (list.text ++ after))) =
        if list.names.length < 2 then none else some .implicitJoin := by
    simp only [Rule.checkTables, hclause, hkeyword, hnames, Option.bind_eq_bind, Option.bind_some,
      Bool.false_or, decide_eq_true_eq]
  rw [hcheck]
  by_cases hfew : list.names.length < 2
  · rw [if_pos hfew, if_neg (by omega)]
  · rw [if_neg hfew, if_pos (by omega)]

end CommaList

end QueryLint
