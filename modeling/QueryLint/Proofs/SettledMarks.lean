import QueryLint.Proofs.KeywordOccurrences
import QueryLint.Proofs.Trimming
import QueryLint.Proofs.VisibleText

/-!
What trimming cuts off at the end of a clause body: white space and comments, then one run of
semicolons, then the white space before it. Each of these is cut once, so that a semicolon or a
comment is left where more than that stands at the end.
-/

namespace QueryLint

namespace Marked

def isFirm (mark : Marked) : Bool := mark.isVisible && mark.1 ≠ ';'

theorem isFirm_iff {mark : Marked} : mark.isFirm ↔ mark.isVisible ∧ mark.1 ≠ ';' := by
  simp [isFirm]

theorem isFirm_of_isWord {mark : Marked} (h : mark.isWord) : mark.isFirm :=
  isFirm_iff.mpr ⟨isVisible_of_isWord h, ne_of_isWord h (by decide) (by decide)⟩

theorem isBlank_of_isFirm {mark : Marked} (h : mark.isFirm) : mark.isBlank = false :=
  isBlank_of_isVisible (isFirm_iff.mp h).1

end Marked

variable {text : Text} {marks front back tail blanks semicolons rest : List Marked}

/-- Marks without what is cut off at their end. -/
def settle (marks : List Marked) : List Marked :=
  ((marks.rdropWhile fun mark => !mark.isVisible).rdropWhile fun mark => mark.1 = ';').rdropWhile
    Marked.isBlank

/-- Firm marks, and behind the last one white space, semicolons in a row, and white space and
comments, each of which may be missing. -/
def EndsOnce (marks : List Marked) : Prop :=
  ∃ front blanks semicolons rest, marks = front ++ (blanks ++ (semicolons ++ rest)) ∧
    (∀ mark ∈ front.getLast?, mark.isFirm) ∧ (∀ mark ∈ blanks, mark.isBlank) ∧
    (∀ mark ∈ semicolons, mark.1 = ';') ∧ ∀ mark ∈ rest, mark.isVisible = false

theorem settle_prefix (marks : List Marked) : settle marks <+: marks :=
  (List.rdropWhile_prefix _ _).trans
    ((List.rdropWhile_prefix _ _).trans (List.rdropWhile_prefix _ _))

/-- Nothing is cut off up to a firm mark. -/
theorem settle_append (h : ∀ mark ∈ front.getLast?, mark.isFirm) :
    settle (front ++ back) = front ++ settle back := by
  simp only [settle]
  rw [rdropWhile_append_of_last, rdropWhile_append_of_last, rdropWhile_append_of_last]
  · exact fun mark hmark => Marked.isBlank_of_isFirm (h mark hmark)
  · exact fun mark hmark => by simp [(Marked.isFirm_iff.mp (h mark hmark)).2]
  · exact fun mark hmark => by simp [(Marked.isFirm_iff.mp (h mark hmark)).1]

theorem settle_append_of_hidden (h : ∀ mark ∈ tail, mark.isVisible = false) :
    settle (marks ++ tail) = settle marks := by
  simp only [settle]
  rw [rdropWhile_append_of_forall]
  exact fun mark hmark => by simp [h mark hmark]

theorem prefix_of_getLast? {α : Type} {list front back : List α} (h : list <+: front ++ back)
    (hlast : ∀ a ∈ list.getLast?, a ∉ back) : list <+: front := by
  obtain ⟨more, hmore⟩ := h
  rcases List.append_eq_append_iff.mp hmore with ⟨rest, hfront, -⟩ | ⟨rest, rfl, hback⟩
  · exact ⟨rest, hfront.symm⟩
  · rcases List.eq_nil_or_concat' rest with rfl | ⟨init, last, rfl⟩
    · simp
    · exact absurd (by simp [hback]) (hlast last (by simp))

/-- All of it is cut off, and all of every front of it. -/
theorem settle_eq_nil (h : marks <+: blanks ++ (semicolons ++ rest))
    (hblanks : ∀ mark ∈ blanks, mark.isBlank) (hsemicolons : ∀ mark ∈ semicolons, mark.1 = ';')
    (hrest : ∀ mark ∈ rest, mark.isVisible = false) : settle marks = [] := by
  set visible := marks.rdropWhile fun mark => !mark.isVisible with hvisible
  set core := visible.rdropWhile fun mark => mark.1 = ';' with hcore
  -- each of the three cuts takes one of the three parts away
  have hvisiblePrefix : visible <+: blanks ++ semicolons := by
    rw [← List.append_assoc] at h
    refine prefix_of_getLast? ((List.rdropWhile_prefix _ _).trans h) fun mark hmark hin => ?_
    have hlast := getLast_rdropWhile hmark
    simp [hrest mark hin] at hlast
  have hcorePrefix : core <+: blanks := by
    refine prefix_of_getLast? ((List.rdropWhile_prefix _ _).trans hvisiblePrefix) ?_
    intro mark hmark hin
    have hlast := getLast_rdropWhile hmark
    simp [hsemicolons mark hin] at hlast
  exact List.rdropWhile_eq_nil_iff.mpr fun mark hmark => hblanks mark (hcorePrefix.subset hmark)

theorem mem_settle {mark : Marked} (hmark : mark ∈ marks) (hfirm : mark.isFirm) :
    mark ∈ settle marks := by
  obtain ⟨front, back, rfl⟩ := List.append_of_mem hmark
  rw [← List.singleton_append, ← List.append_assoc, settle_append (by simpa using hfirm)]
  simp

theorem exists_settle (marks : List Marked) :
    ∃ blanks semicolons rest, marks = settle marks ++ (blanks ++ (semicolons ++ rest)) ∧
      (∀ mark ∈ blanks, mark.isBlank) ∧ (∀ mark ∈ semicolons, mark.1 = ';') ∧
      ∀ mark ∈ rest, mark.isVisible = false := by
  set visible := marks.rdropWhile fun mark => !mark.isVisible with hvisible
  set core := visible.rdropWhile fun mark => mark.1 = ';' with hcore
  refine ⟨core.rtakeWhile Marked.isBlank, visible.rtakeWhile fun mark => mark.1 = ';',
    marks.rtakeWhile fun mark => !mark.isVisible, ?_, ?_, ?_, ?_⟩
  · have hsettle : settle marks = core.rdropWhile Marked.isBlank := rfl
    rw [hsettle, ← List.append_assoc, List.rdropWhile_append_rtakeWhile, ← List.append_assoc,
      List.rdropWhile_append_rtakeWhile, List.rdropWhile_append_rtakeWhile]
  · exact fun mark hmark => List.mem_rtakeWhile_imp hmark
  · exact fun mark hmark => by simpa using List.mem_rtakeWhile_imp hmark
  · exact fun mark hmark => by simpa using List.mem_rtakeWhile_imp hmark

/-- What is left ends in a firm mark exactly when nothing would have to be cut a second time. -/
theorem endsOnce_iff : EndsOnce marks ↔ ∀ mark ∈ (settle marks).getLast?, mark.isFirm := by
  constructor
  · rintro ⟨front, blanks, semicolons, rest, rfl, hfront, hblanks, hsemicolons, hrest⟩
    rw [settle_append hfront, settle_eq_nil List.prefix_rfl hblanks hsemicolons hrest,
      List.append_nil]
    exact hfront
  · intro h
    obtain ⟨blanks, semicolons, rest, hmarks, hblanks, hsemicolons, hrest⟩ := exists_settle marks
    exact ⟨settle marks, blanks, semicolons, rest, hmarks, h, hblanks, hsemicolons, hrest⟩

/-- Marks without a firm one behind others are cut off where the whole ends as it should. -/
theorem settle_eq_of_endsOnce (htail : ∀ mark ∈ tail, mark.isFirm = false)
    (h : EndsOnce (marks ++ tail)) : settle (marks ++ tail) = settle marks := by
  obtain ⟨front, blanks, semicolons, rest, hsplit, hfront, hblanks, hsemicolons, hrest⟩ := h
  have hprefix : front <+: marks := by
    refine prefix_of_getLast? ⟨_, hsplit.symm⟩ fun mark hmark hin => ?_
    have hfirm := hfront mark hmark
    simp [htail mark hin] at hfirm
  obtain ⟨more, rfl⟩ := hprefix
  rw [List.append_assoc, List.append_cancel_left_eq] at hsplit
  rw [List.append_assoc, settle_append hfront, settle_append hfront,
    settle_eq_nil (hsplit ▸ List.prefix_rfl) hblanks hsemicolons hrest,
    settle_eq_nil ⟨tail, hsplit⟩ hblanks hsemicolons hrest]

theorem trimCode_eq_rdropWhile (text : Text) :
    trimCode text = (((scan text).dropWhile fun mark => !mark.isVisible).rdropWhile
      fun mark => !mark.isVisible).map Prod.fst := by
  obtain ⟨before, middle, after, hsplit, hvisible⟩ := exists_visibleWithin (scan text)
  have hbefore : ∀ mark ∈ before, (!mark.isVisible) = true := fun mark hmark => by
    simp [hvisible.before mark hmark]
  have hlast : ∀ mark ∈ middle.getLast?, (!mark.isVisible) = false := fun mark hmark => by
    simp [hvisible.last mark hmark]
  have hafter : after.rdropWhile (fun mark => !mark.isVisible) = [] := by
    rw [List.rdropWhile_eq_nil_iff]
    exact fun mark hmark => by simp [hvisible.after mark hmark]
  rw [trimCode_eq hsplit hvisible, hsplit, List.dropWhile_append_of_pos hbefore,
    ← dropWhile_rdropWhile, rdropWhile_append_of_last hlast, hafter, List.append_nil]
  cases middle with
  | nil => rfl
  | cons mark middle =>
    have hfirst := hvisible.first mark rfl
    rw [List.dropWhile_cons_of_neg (by simp [hfirst])]

theorem trimClause_eq_settle (text : Text) : trimClause text =
    ((settle (scan text)).dropWhile fun mark => !mark.isVisible).map Prod.fst := by
  have hmap (p : Char → Bool) (marks : List Marked) :
      Text.dropWhileEnd p (marks.map Prod.fst) =
        (marks.rdropWhile fun mark => p mark.1).map Prod.fst := by
    simp [Text.dropWhileEnd, List.rdropWhile, ← List.map_reverse, List.dropWhile_map,
      Function.comp_def]
  rw [trimClause, trimCode_eq_rdropWhile, hmap, Text.trimEnd, hmap]
  simp only [settle, dropWhile_rdropWhile]
  rfl

theorem scan_trimClause (text : Text) :
    scan (trimClause text) = (settle (scan text)).dropWhile fun mark => !mark.isVisible := by
  set left := (settle (scan text)).dropWhile fun mark => !mark.isVisible with hleft
  have hchars : trimClause text = left.map Prod.fst := trimClause_eq_settle text
  obtain ⟨before, core, cut, after, hsplit, hvisible, hcut, hlast⟩ := exists_core (scan text)
  have hcore := CoreOf.of_visible (hsplit ▸ scanned_scan text) hvisible hcut hlast
  rw [← hsplit, Scan.map_fst_scan] at hcore
  obtain ⟨blanks, rfl, -⟩ := hcore.exists_blanks
  by_cases hnil : left = []
  · rw [hchars, hnil]
    rfl
  have hlength : (scan (trimClause text)).length = left.length := by
    rw [length_scan, hchars, List.length_map]
  have hne : scan (trimClause text) ≠ [] := by
    rw [Ne, ← List.length_eq_zero_iff, hlength, List.length_eq_zero_iff]
    exact hnil
  -- both begin with the first visible mark of the clause body
  obtain ⟨more, hmore⟩ := settle_prefix (scan text)
  have hmarks : (settle (scan text)).takeWhile (fun mark => !mark.isVisible) ++ (left ++ more) =
      before ++ (scan (trimClause text) ++ (blanks ++ (cut ++ after))) := by
    rw [← List.append_assoc, hleft, List.takeWhile_append_dropWhile, hmore, hsplit]
    simp
  have hfirst : ∀ mark ∈ (left ++ more).head?, (!mark.isVisible) = false := by
    intro mark hmark
    have hhead := List.head?_dropWhile_not (fun mark : Marked => !mark.isVisible) (settle (scan text))
    rw [List.head?_append_of_ne_nil _ hnil] at hmark
    rwa [← hleft, Option.mem_def.mp hmark] at hhead
  have hfirst' : ∀ mark ∈ (scan (trimClause text) ++ (blanks ++ (cut ++ after))).head?,
      (!mark.isVisible) = false := by
    intro mark hmark
    rw [List.head?_append_of_ne_nil _ hne] at hmark
    have hhead := hvisible.first mark (by simp [List.head?_append, Option.mem_def.mp hmark])
    simp [hhead]
  have hbefore : ∀ mark ∈ before, (!mark.isVisible) = true := fun mark hmark => by
    simp [hvisible.before mark hmark]
  obtain ⟨-, hrest⟩ := span_unique hmarks (fun mark => List.mem_takeWhile_imp) hfirst hbefore hfirst'
  exact (List.append_inj hrest hlength.symm).1.symm

/-- A clause body with a firm mark ends in one, when it is trimmed, exactly when nothing would have
to be cut a second time. -/
theorem endsOnce_iff_trimClause (hfirm : ∃ mark ∈ scan text, mark.isFirm) :
    EndsOnce (scan text) ↔ ∀ mark ∈ (scan (trimClause text)).getLast?, mark.isFirm := by
  obtain ⟨mark, hmark, hfirm⟩ := hfirm
  have hne : (settle (scan text)).dropWhile (fun mark => !mark.isVisible) ≠ [] := by
    rw [Ne, List.dropWhile_eq_nil_iff]
    intro hall
    have hhidden := hall mark (mem_settle hmark hfirm)
    simp [(Marked.isFirm_iff.mp hfirm).1] at hhidden
  rw [endsOnce_iff, scan_trimClause, ← List.getLast?_append_of_ne_nil _ hne,
    List.takeWhile_append_dropWhile]

/-- Whether two clause bodies with the same front are trimmed alike depends only on what stands
behind the front, when this ends in a firm mark. -/
theorem trimClause_eq_iff {text' : Text} {back' : List Marked} (front : List Marked)
    (hfirm : ∃ mark ∈ front.getLast?, mark.isFirm) (hsplit : scan text = front ++ back)
    (hsplit' : scan text' = front ++ back') :
    trimClause text' = trimClause text ↔ settle back' = settle back := by
  obtain ⟨mark, hmark, hfirm⟩ := hfirm
  have hlast : ∀ mark ∈ front.getLast?, mark.isFirm := fun other hother =>
    Option.mem_unique hother hmark ▸ hfirm
  have hne : (front.dropWhile fun mark => !mark.isVisible).isEmpty = false := by
    rw [Bool.eq_false_iff, Ne, List.isEmpty_iff, List.dropWhile_eq_nil_iff]
    intro hall
    have hhidden := hall mark (List.mem_of_getLast? hmark)
    simp [(Marked.isFirm_iff.mp hfirm).1] at hhidden
  have hscan {text : Text} {back : List Marked} (hsplit : scan text = front ++ back) :
      scan (trimClause text) = front.dropWhile (fun mark => !mark.isVisible) ++ settle back := by
    rw [scan_trimClause, hsplit, settle_append hlast, List.dropWhile_append, hne]
    rfl
  rw [← List.append_right_inj (front.dropWhile fun mark => !mark.isVisible), ← hscan hsplit,
    ← hscan hsplit']
  constructor
  · exact congrArg scan
  · intro h
    rw [← Scan.map_fst_scan (trimClause text'), h, Scan.map_fst_scan]

end QueryLint
