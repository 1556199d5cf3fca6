import Mathlib.Data.List.Infix
import QueryLint.Proofs.ItemSplitting
import QueryLint.Proofs.Searching
import QueryLint.Proofs.Trimming
import QueryLint.Proofs.VisibleText
import QueryLint.Rule.Mistake

/-!
Wildcards in a SELECT list. The rule for sort columns reads the list as a whole: a wildcard makes
every sort column acceptable when the list is one or ends in a qualified one, and does nothing
before other items.
-/

namespace QueryLint

open Text

namespace Text

theorem join_concat (separator last : Text) (items : List Text) :
    join separator (items ++ [last]) = items.flatMap (· ++ separator) ++ last := by
  induction items with
  | nil => rfl
  | cons item items ih =>
    have hjoin : join separator (item :: (items ++ [last])) =
        item ++ separator ++ join separator (items ++ [last]) := by
      cases items <;> rfl
    rw [List.cons_append, hjoin, ih, List.flatMap_cons, List.append_assoc _ _ last]

theorem trim_eq_self {text : Text} (hne : text ≠ []) (hfirst : ∀ c ∈ text.head?, isBlank c = false)
    (hlast : ∀ c ∈ text.getLast?, isBlank c = false) : trim text = text :=
  dropWhile_self hne hfirst hlast

end Text

/-- A list that is a bare wildcard, or whose text ends in a qualified one. -/
def EndsInWildcard (list : Text) : Prop := list = ['*'] ∨ ['.', '*'] <:+ list

instance (list : Text) : Decidable (EndsInWildcard list) :=
  inferInstanceAs (Decidable (list = ['*'] ∨ ['.', '*'] <:+ list))

theorem isWildcard_iff {list : Text} (h : trim list = list) :
    Selection.isWildcard list ↔ EndsInWildcard list := by
  simp [Selection.isWildcard, EndsInWildcard, h, List.isSuffixOf_iff_suffix]

/-- What stands in front of a comma does not make a list end in a wildcard. -/
theorem endsInWildcard_append_comma (front rest : Text) :
    EndsInWildcard (front ++ ',' :: rest) ↔ ['.', '*'] <:+ rest := by
  have hnot : front ++ ',' :: rest ≠ ['*'] := by
    intro heq
    obtain ⟨-, hcomma⟩ | ⟨more, -, hmore⟩ := List.append_eq_cons_iff.mp heq
    · cases hcomma
    · simp at hmore
  rw [EndsInWildcard, or_iff_right hnot]
  constructor
  · intro hwhole
    obtain ⟨before, hbefore⟩ := hwhole
    rcases List.eq_nil_or_concat' rest with rfl | ⟨init, last, rfl⟩
    · have hlast := congrArg List.getLast? hbefore
      simp at hlast
    · rcases List.eq_nil_or_concat' init with rfl | ⟨init, c, rfl⟩
      · have hends := congrArg List.reverse hbefore
        simp at hends
      · refine List.suffix_of_suffix_length_le ⟨before, hbefore⟩ ?_ (by simp)
        exact (List.suffix_cons _ _).trans (List.suffix_append _ _)
  · exact fun hrest => hrest.trans ((List.suffix_cons _ _).trans (List.suffix_append _ _))

theorem endsInWildcard_join (items : List Text) (last : Text) :
    EndsInWildcard (join ", " (items ++ [last])) ↔
      (items = [] ∧ last = ['*']) ∨ ['.', '*'] <:+ last := by
  rw [join_concat]
  rcases List.eq_nil_or_concat' items with rfl | ⟨init, item, rfl⟩
  · simp [EndsInWildcard]
  · have hsplit : (init ++ [item]).flatMap (· ++ (", " : Text)) ++ last =
        (init.flatMap (· ++ (", " : Text)) ++ item) ++ ',' :: ([' '] ++ last) := by
      rw [List.flatMap_append, List.flatMap_singleton]
      simp
    have hspace : ['.', '*'] <:+ [' '] ++ last ↔ ['.', '*'] <:+ last := by
      rw [List.singleton_append, List.suffix_cons_iff, or_iff_right]
      rintro ⟨⟩
    rw [hsplit, endsInWildcard_append_comma, hspace]
    simp

section Projections

variable {text selection projection front rest : Text}

theorem trim_dropQuantifier (h : trim selection = selection) :
    trim (dropQuantifier selection) = dropQuantifier selection := by
  rw [dropQuantifier]
  split_ifs with hword
  · set rest := selection.dropWhile fun c => !isBlank c with hrest
    by_cases hnil : trimStart rest = []
    · rw [hnil]
      rfl
    refine trim_eq_self hnil (fun c hc => ?_) (fun c hc => ?_)
    · have hhead := List.head?_dropWhile_not isBlank rest
      rwa [show rest.dropWhile isBlank = trimStart rest from rfl, Option.mem_def.mp hc] at hhead
    · have hsuffix : trimStart rest <:+ selection :=
        (List.dropWhile_suffix _).trans (List.dropWhile_suffix _)
      obtain ⟨before, hbefore⟩ := hsuffix
      have hlast : c ∈ (trim selection).getLast? := by
        rwa [h, ← hbefore, List.getLast?_append_of_ne_nil _ hnil]
      exact getLast_trimEnd hlast
  · exact h

theorem trim_trimClause (body : Text) : trim (trimClause body) = trimClause body := by
  obtain ⟨lead, kept, blanks, cut, trail, -, hkept, htrimmed⟩ :=
    exists_trimmedBody (scanned_scan body)
  rw [Scan.map_fst_scan] at hkept
  by_cases hnil : kept = []
  · rw [hkept, ← List.length_eq_zero_iff, length_scan, List.length_eq_zero_iff] at hnil
    rw [hnil]
    rfl
  rw [← Scan.map_fst_scan (trimClause body), ← hkept]
  refine trim_eq_self (by simpa using hnil) (fun c hc => ?_) (fun c hc => ?_)
  · rw [List.head?_map] at hc
    obtain ⟨mark, hmark, rfl⟩ := Option.map_eq_some_iff.mp hc
    have hfirst : mark ∈ ((kept ++ blanks) ++ cut).head? := by
      rwa [List.append_assoc, List.head?_append_of_ne_nil _ hnil]
    exact Marked.isBlank_of_isVisible (htrimmed.visible.first mark hfirst)
  · rw [List.getLast?_map] at hc
    obtain ⟨mark, hmark, rfl⟩ := Option.map_eq_some_iff.mp hc
    exact htrimmed.last mark hmark

theorem trim_projection (h : ClauseReader.lexical.projection text = some projection) :
    trim projection = projection := by
  obtain ⟨selection, hselection, rfl⟩ := Option.map_eq_some_iff.mp h
  obtain ⟨span, -, rfl⟩ := Option.map_eq_some_iff.mp hselection
  exact trim_dropQuantifier (trim_trimClause _)

theorem segmentsFrom_append_comma (depth : Nat) (front rest : List Marked)
    (h : depthFrom depth front = 0) :
    segmentsFrom depth (front ++ (',', .code) :: rest) =
      segmentsFrom depth front ++ segmentsFrom 0 rest := by
  induction front generalizing depth with
  | nil =>
    obtain rfl : depth = 0 := h
    rfl
  | cons mark front ih =>
    rw [List.cons_append, segmentsFrom, segmentsFrom]
    split_ifs with hcomma
    · have hdepth : depthAfter depth mark = depth := by
        obtain rfl := Marked.isCode_iff.mp (Bool.and_eq_true_iff.mp hcomma).1
        rfl
      rw [ih depth (by rw [← h, depthFrom, depthFrom, List.foldl_cons, hdepth])]
      rfl
    · rw [ih (depthAfter depth mark) h]
      obtain ⟨segment, segments, hsegments⟩ :=
        List.exists_cons_of_ne_nil (segmentsFrom_ne_nil (depthAfter depth mark) front)
      rw [hsegments]
      rfl

/-- The items of a list are those in front of a separating comma and those behind it. -/
theorem splitItems_append_comma (h : front.length ∈ topLevelCommas (front ++ ',' :: rest)) :
    splitItems (front ++ ',' :: rest) = splitItems front ++ splitItems rest := by
  obtain ⟨before, after, hscan, hlength, hdepth⟩ := mem_commasFrom_iff.mp h
  rw [Nat.zero_add] at hlength
  have hchars := congrArg (List.map Prod.fst) hscan
  rw [Scan.map_fst_scan, List.map_append, List.map_cons] at hchars
  obtain ⟨rfl, hcons⟩ := List.append_inj hchars (by rw [hlength, List.length_map])
  obtain rfl := (List.cons.inj hcons).2
  obtain ⟨hfront, hrest⟩ := (hscan ▸ scanned_scan _).around_comma
  rw [splitItems_eq, splitItems_eq, splitItems_eq, hscan, hfront, hrest, itemsOf,
    segmentsFrom_append_comma 0 before after hdepth, List.map_append, List.filter_append]
  rfl

end Projections

namespace Rule

/-- Sort columns against the SELECT list of a statement. When the list is a bare wildcard, or its
text ends in a qualified one, no sort column is reported. In every other case wildcards are items
like others, and the first sort column is reported that the text of the list mentions neither as it
is nor by its bare name. So the items in front of a comma do not matter: what the list ends in is
what stands behind the comma, and in a list that is written with commas between its items, it is
the last item. -/
theorem checkOrdering_projection {text ordering projection : Text}
    (hordering : ClauseReader.lexical.clause text .ordering = some ordering)
    (hprojection : ClauseReader.lexical.projection text = some projection) :
    (EndsInWildcard projection → checkOrdering .lexical text = none) ∧
      (¬EndsInWildcard projection →
        checkOrdering .lexical text =
          (((splitItems ordering).map Selection.sortColumn).find?
            (isDangling (lower projection))).map Finding.danglingOrderBy) ∧
      (∀ front rest, projection = front ++ ',' :: rest →
        front.length ∈ topLevelCommas projection →
          splitItems projection = splitItems front ++ splitItems rest ∧
            (EndsInWildcard projection ↔ ['.', '*'] <:+ rest)) ∧
      ∀ items last, ListItems (items ++ [last]) → projection = join ", " (items ++ [last]) →
        splitItems projection = items ++ [last] ∧
          (EndsInWildcard projection ↔ (items = [] ∧ last = ['*']) ∨ ['.', '*'] <:+ last) := by
  have hwildcard := isWildcard_iff (trim_projection hprojection)
  refine ⟨fun hends => ?_, fun hends => ?_, ?_, ?_⟩
  · simp only [checkOrdering, hordering, hprojection, Option.bind_eq_bind, Option.bind_some,
      if_pos (hwildcard.mpr hends)]
  · simp only [checkOrdering, hordering, hprojection, Option.bind_eq_bind, Option.bind_some,
      if_neg (mt hwildcard.mp hends)]
    rw [Option.map_eq_bind]
    rfl
  · rintro front rest rfl hcomma
    exact ⟨splitItems_append_comma hcomma, endsInWildcard_append_comma front rest⟩
  · rintro items last hitems rfl
    exact ⟨hitems.splitItems_join, endsInWildcard_join items last⟩

theorem checkOrdering_projection_wildcard_first :
    let text : Text := "SELECT t.*, a FROM t ORDER BY a, b DESC"
    splitItems "t.*, a" = ["t.*".toList, "a".toList] ∧
      checkOrdering .lexical text = some (.danglingOrderBy "b") := by
  intro text
  have hitems : ListItems ["t.*".toList, "a".toList] := by
    have h := listItems_splitItems "t.*, a"
    rwa [show splitItems "t.*, a" = ["t.*".toList, "a".toList] by decide +kernel] at h
  have hordering : ClauseReader.lexical.clause text .ordering = some "a, b DESC".toList := by
    decide +kernel
  have hprojection : ClauseReader.lexical.projection text = some "t.*, a".toList := by
    decide +kernel
  obtain ⟨-, hreported, -, hwritten⟩ := checkOrdering_projection hordering hprojection
  obtain ⟨hsplit, -⟩ := hwritten ["t.*".toList] "a".toList hitems (by decide)
  exact ⟨hsplit, (hreported (by decide)).trans (by decide +kernel)⟩

/-- A wildcard before other items does not make every sort column acceptable, although the same
items in another order do. -/
theorem not_forall_checkOrdering_wildcard :
    (¬∀ text projection : Text, ClauseReader.lexical.projection text = some projection →
        (∃ item ∈ splitItems projection, Selection.isWildcard item) →
          checkOrdering .lexical text = none) ∧
      checkOrdering .lexical "SELECT t.*, a FROM t ORDER BY b" = some (.danglingOrderBy "b") ∧
      checkOrdering .lexical "SELECT a, t.* FROM t ORDER BY b" = none := by
  have hfirst : checkOrdering .lexical "SELECT t.*, a FROM t ORDER BY b" =
      some (.danglingOrderBy "b") := by
    decide +kernel
  refine ⟨fun hall => ?_, hfirst, by decide +kernel⟩
  have hnone := hall "SELECT t.*, a FROM t ORDER BY b" "t.*, a" (by decide +kernel)
    ⟨"t.*", by decide +kernel, by decide +kernel⟩
  rw [hfirst] at hnone
  cases hnone

end Rule

end QueryLint
