import QueryLint.Proofs.HiddenText
import QueryLint.Proofs.MistypedKeywords
import QueryLint.Proofs.Numerals
import QueryLint.Proofs.SortSuffixes
import QueryLint.Rejection.Remedy

/-!
What the suggestion for a rejected statement depends on. It takes two things from the text of the
statement: the first word that mistypes a keyword, and by how many the opening parentheses exceed
the closing ones. Both are taken from the whole text, literals and comments included.
-/

namespace QueryLint

namespace Text

theorem runsFrom_append_false (offset : Nat) (front back : List Bool) :
    runsFrom offset (front ++ false :: back) =
      runsFrom offset front ++ runsFrom (offset + front.length + 1) back := by
  induction front generalizing offset with
  | nil => rfl
  | cons flag front ih =>
    have hlength : offset + 1 + front.length + 1 = offset + (flag :: front).length + 1 := by
      simp only [List.length_cons]
      omega
    have hrest := ih (offset + 1)
    rw [hlength] at hrest
    cases flag with
    | false => simpa only [List.cons_append, runsFrom] using hrest
    | true =>
      simp only [List.cons_append, runsFrom, hrest]
      cases runsFrom (offset + 1) front with
      | cons run runs =>
        simp only [List.cons_append]
        split_ifs <;> rfl
      | nil =>
        -- the first run behind the flag does not begin right after this one
        have hlater := (runsFrom_spec (offset + (true :: front).length + 1) back).2
        cases hruns : runsFrom (offset + (true :: front).length + 1) back with
        | nil => rfl
        | cons run runs =>
          have hstart := hlater run (hruns ▸ List.mem_cons_self)
          have hne : run.start ≠ offset + 1 := by
            simp only [List.length_cons] at hstart
            omega
          simp [hne]

/-- The pieces of a text around a character that belongs to none are those of the two sides. -/
theorem map_slice_runsOf_append {p : Char → Bool} {c : Char} (hc : p c = false)
    (front back : Text) :
    (runsOf p (front ++ c :: back)).map (·.slice (front ++ c :: back)) =
      (runsOf p front).map (·.slice front) ++ (runsOf p back).map (·.slice back) := by
  have hback := map_slice_runsFrom p (front ++ [c]) back
  rw [List.append_assoc, List.length_append, List.length_singleton, List.singleton_append] at hback
  rw [runsOf, List.map_append, List.map_cons, hc, runsFrom_append_false, List.map_append,
    List.length_map, Nat.zero_add, hback]
  congr 1
  apply List.map_congr_left
  intro run hrun
  have hbounds := (runsFrom_spec 0 (front.map p)).2 run hrun
  rw [List.length_map] at hbounds
  exact Span.slice_append_left (by omega) _

theorem of_mem_slice_runsOf {p : Char → Bool} {text : Text} {run : Span} {c : Char}
    (hrun : run ∈ runsOf p text) (hc : c ∈ run.slice text) : p c := by
  obtain ⟨i, hi⟩ := List.mem_iff_getElem?.mp hc
  have hbounds := (runsFrom_spec 0 (text.map p)).2 run hrun
  simp only [Span.slice, List.getElem?_take, List.getElem?_drop] at hi
  split_ifs at hi with hlt
  have hcovers : ∃ other ∈ runsFrom 0 (text.map p), other.Covers (run.start + i) :=
    ⟨run, hrun, by omega, by omega⟩
  obtain ⟨position, hflag, hposition⟩ := (exists_covers_runsFrom_iff 0 _ _).mp hcovers
  rw [Nat.zero_add] at hposition
  rw [← hposition, List.getElem?_map, hi] at hflag
  simpa using hflag

end Text

open Text

theorem eq_of_isQuote {c : Char} (h : Scan.isQuote c) : c = '\'' ∨ c = '"' ∨ c = '`' := by
  simpa only [Scan.isQuote, Bool.or_eq_true, decide_eq_true_eq, or_assoc] using h

namespace Misspelling

/-- Characters that stand in no word, in upper case either. -/
def Separating (text : Text) : Prop := ∀ c ∈ text, upperChar c = [c] ∧ isWordChar c = false

instance : DecidablePred Separating := fun text =>
  List.decidableBAll (fun c => upperChar c = [c] ∧ isWordChar c = false) text

theorem words_append {separator : Text} (hne : separator ≠ []) (hseparator : Separating separator)
    (front back : Text) : words (front ++ (separator ++ back)) = words front ++ words back := by
  induction separator generalizing front with
  | nil => exact absurd rfl hne
  | cons c separator ih =>
    obtain ⟨⟨hupper, hc⟩, hrest⟩ := List.forall_mem_cons.mp hseparator
    have hcons (front back : Text) : words (front ++ c :: back) = words front ++ words back := by
      have hsplit : upper (front ++ c :: back) = upper front ++ c :: upper back := by
        simp [upper, hupper]
      simp only [words, hsplit]
      exact map_slice_runsOf_append hc _ _
    have hbehind : words (separator ++ back) = words back := by
      by_cases hnil : separator = []
      · rw [hnil, List.nil_append]
      · exact ih hnil hrest []
    rw [List.cons_append, hcons, hbehind]

theorem separating_opener (enclosure : Enclosure) :
    enclosure.opener ≠ [] ∧ Separating enclosure.opener := by
  cases enclosure with
  | literal mark hquote =>
    show [mark] ≠ [] ∧ Separating [mark]
    rcases eq_of_isQuote hquote with rfl | rfl | rfl <;> decide
  | lineComment => decide
  | blockComment => decide

theorem separating_closer (enclosure : Enclosure) :
    enclosure.closer ≠ [] ∧ Separating enclosure.closer := by
  cases enclosure with
  | literal mark hquote => exact separating_opener (.literal mark hquote)
  | lineComment => decide
  | blockComment => decide

theorem words_around (enclosure : Enclosure) (before after inner : Text) :
    words (enclosure.around before after inner) = words before ++ (words inner ++ words after) := by
  obtain ⟨hopener, hopens⟩ := separating_opener enclosure
  obtain ⟨hcloser, hcloses⟩ := separating_closer enclosure
  rw [Enclosure.around, words_append hopener hopens, words_append hcloser hcloses]

theorem find?_around (enclosure : Enclosure) (before after inner : Text) :
    find? (enclosure.around before after inner) =
      (find? before).or ((find? inner).or (find? after)) := by
  simp only [find?_eq_findSome?, words_around, List.findSome?_append]

theorem not_mem_of_find? {text : Text} {found : Misspelling} (h : find? text = some found) :
    '\'' ∉ found.word := by
  intro hquote
  obtain ⟨before, after, hwords, -⟩ := (find?_eq_some_iff.mp h).1
  have hword : found.word ∈ words text := by simp [hwords]
  obtain ⟨run, hrun, hslice⟩ := List.mem_map.mp hword
  have hletter := of_mem_slice_runsOf hrun (hslice ▸ hquote)
  exact absurd hletter (by decide)

end Misspelling

namespace Remedy

/-- By how many the opening parentheses of a text exceed the closing ones. -/
def surplus (text : Text) : Int := (text.count '(' : Int) - text.count ')'

theorem surplus_append (front back : Text) : surplus (front ++ back) = surplus front + surplus back := by
  simp only [surplus, List.count_append]
  omega

theorem surplus_around (enclosure : Enclosure) (before after inner : Text) :
    surplus (enclosure.around before after inner) =
      surplus before + surplus inner + surplus after := by
  have hends : surplus enclosure.opener = 0 ∧ surplus enclosure.closer = 0 := by
    cases enclosure with
    | literal mark hquote =>
      show surplus [mark] = 0 ∧ surplus [mark] = 0
      rcases eq_of_isQuote hquote with rfl | rfl | rfl <;> decide
    | lineComment => decide
    | blockComment => decide
  simp only [Enclosure.around, surplus_append, hends]
  omega

def misspelled (found : Misspelling) : Text :=
  "'" ++ found.word ++ "' may be a misspelling of '" ++ found.keyword ++ "'"

def unbalanced (surplus : Int) : Option Text :=
  if surplus = 0 then none
  else if 0 < surplus then
    some ("SQL statement is missing " ++ (ofNat surplus.toNat ++ (" closing " ++
      (parentheses surplus.toNat ++ " ')'"))))
  else
    some ("SQL statement has " ++ (ofNat (-surplus).toNat ++ (" extra closing " ++
      (parentheses (-surplus).toNat ++ " ')'"))))

/-- What is suggested for a message alone. -/
def ofMessage (rejection : Rejection) : Option Text :=
  [expectedKeyword, unknownColumn, unknownTable, generic].findSome? fun rule => rule rejection []

theorem unbalancedParentheses_eq (rejection : Rejection) (text : Text) :
    unbalancedParentheses rejection text =
      if Complaint.mentionsBrackets rejection.message then unbalanced (surplus text) else none := by
  have hzero : surplus text = 0 ↔ text.count '(' = text.count ')' := by
    simp only [surplus]
    omega
  have hpos : 0 < surplus text ↔ text.count ')' < text.count '(' := by
    simp only [surplus]
    omega
  have hmore : (surplus text).toNat = text.count '(' - text.count ')' := by
    simp only [surplus]
    omega
  have hless : (-surplus text).toNat = text.count ')' - text.count '(' := by
    simp only [surplus]
    omega
  cases hmentions : Complaint.mentionsBrackets rejection.message with
  | false => simp [unbalancedParentheses, hmentions]
  | true =>
    simp only [unbalancedParentheses, unbalanced, hmentions, hzero, hpos, hmore, hless,
      Bool.not_true, Bool.false_or, decide_eq_true_eq, if_true, List.append_assoc]

theorem remedy?_eq (rejection : Rejection) (text : Text) :
    rejection.remedy? text =
      if Complaint.isMissingFrom rejection.message then missingFrom rejection []
      else match Misspelling.find? text with
        | some found => some (misspelled found)
        | none =>
          (if Complaint.mentionsBrackets rejection.message then unbalanced (surplus text)
            else none).or (ofMessage rejection) := by
  have hrules : rejection.remedy? text = (missingFrom rejection text).or
      ((misspelledKeyword rejection text).or
        ((unbalancedParentheses rejection text).or (ofMessage rejection))) := by
    rw [Rejection.remedy?, rules, List.findSome?_cons, List.findSome?_cons, List.findSome?_cons]
    cases missingFrom rejection text with
    | some remedy => rfl
    | none =>
      cases misspelledKeyword rejection text with
      | some remedy => rfl
      | none => cases unbalancedParentheses rejection text <;> rfl
  rw [hrules, unbalancedParentheses_eq]
  by_cases hmissing : Complaint.isMissingFrom rejection.message
  · simp [missingFrom, hmissing]
  · cases hfind : Misspelling.find? text with
    | none => simp [missingFrom, misspelledKeyword, hmissing, hfind]
    | some found => simp [missingFrom, misspelledKeyword, misspelled, hmissing, hfind]

theorem ofNat_append_inj {n m : Nat} {c : Char} {rest rest' : Text} (hc : c.isDigit = false)
    (h : ofNat n ++ c :: rest = ofNat m ++ c :: rest') : n = m := by
  obtain ⟨hnumbers, -⟩ := span_unique h (fun _ => isDigit_of_mem_ofNat) (by simpa using hc)
    (fun _ => isDigit_of_mem_ofNat) (by simpa using hc)
  exact ofNat_injective hnumbers

theorem misspelled_inj {found found' : Misspelling} (hfound : '\'' ∉ found.word)
    (hfound' : '\'' ∉ found'.word) (h : misspelled found = misspelled found') : found = found' := by
  have hletters {word : Text} (hword : '\'' ∉ word) : ∀ c ∈ word, decide (c ≠ '\'') := by
    intro c hc
    simpa using ne_of_mem_of_not_mem hc hword
  have hquote (text : Text) : ∀ c ∈ ("' may be a misspelling of '".toList ++ text).head?,
      decide (c ≠ '\'') = false := by
    intro c hc
    obtain rfl : '\'' = c := Option.some.inj hc
    decide
  simp only [misspelled, List.append_assoc] at h
  obtain ⟨hword, hrest⟩ := span_unique (List.append_cancel_left h) (hletters hfound)
    (hquote _) (hletters hfound') (hquote _)
  have hkeyword := List.append_cancel_right (List.append_cancel_left hrest)
  cases found
  cases found'
  simp only [Misspelling.mk.injEq]
  exact ⟨hword, hkeyword⟩

theorem of_unbalanced {n : Int} {remedy : Text} (h : unbalanced n = some remedy) :
    (∃ (k : Nat) (rest : Text), n = k ∧
        remedy = "SQL statement is missing ".toList ++ (ofNat k ++ ' ' :: rest)) ∨
      ∃ (k : Nat) (rest : Text), n = -k ∧
        remedy = "SQL statement has ".toList ++ (ofNat k ++ ' ' :: rest) := by
  simp only [unbalanced] at h
  split_ifs at h with hzero hpos
  · obtain rfl := Option.some.inj h
    exact .inl ⟨n.toNat, _, by omega, rfl⟩
  · obtain rfl := Option.some.inj h
    exact .inr ⟨(-n).toNat, _, by omega, rfl⟩

theorem unbalanced_inj {n m : Int} {remedy : Text} (hn : unbalanced n = some remedy)
    (hm : unbalanced m = some remedy) : n = m := by
  -- the two wordings differ in their fifteenth character
  have hmissing (text : Text) : ("SQL statement is missing ".toList ++ text)[14]? = some 'i' := by
    rw [List.getElem?_append_left (by decide)]
    rfl
  have hextra (text : Text) : ("SQL statement has ".toList ++ text)[14]? = some 'h' := by
    rw [List.getElem?_append_left (by decide)]
    rfl
  have hspace : ' '.isDigit = false := by decide
  rcases of_unbalanced hn with ⟨k, rest, rfl, rfl⟩ | ⟨k, rest, rfl, rfl⟩ <;>
    rcases of_unbalanced hm with ⟨k', rest', rfl, htext⟩ | ⟨k', rest', rfl, htext⟩
  · rw [ofNat_append_inj hspace (List.append_cancel_left htext)]
  · have hchar := congrArg (·[14]?) htext
    simp only [hmissing, hextra] at hchar
    cases hchar
  · have hchar := congrArg (·[14]?) htext
    simp only [hmissing, hextra] at hchar
    cases hchar
  · rw [ofNat_append_inj hspace (List.append_cancel_left htext)]

theorem head_unbalanced {n : Int} {remedy : Text} (h : unbalanced n = some remedy) :
    remedy.head? = some 'S' := by
  rcases of_unbalanced h with ⟨k, rest, -, rfl⟩ | ⟨k, rest, -, rfl⟩ <;> rfl

theorem head_ofMessage {rejection : Rejection} {remedy : Text} (h : ofMessage rejection = some remedy) :
    remedy.head? = some 'K' ∨ remedy.head? = some 'C' := by
  obtain ⟨rule, hrule, hremedy⟩ := List.exists_of_findSome?_eq_some h
  simp only [List.mem_cons, List.not_mem_nil, or_false] at hrule
  rcases hrule with rfl | rfl | rfl | rfl
  · obtain ⟨expected, -, rfl⟩ := Option.map_eq_some_iff.mp hremedy
    exact .inl rfl
  · obtain ⟨column, -, rfl⟩ := Option.map_eq_some_iff.mp hremedy
    exact .inr rfl
  · obtain ⟨table, -, rfl⟩ := Option.map_eq_some_iff.mp hremedy
    exact .inr rfl
  · cases hremedy
    exact .inr rfl

/-- What is suggested where no keyword is mistyped tells the surplus of parentheses. -/
theorem or_ofMessage_inj {n m : Int} {rejection : Rejection}
    (h : (unbalanced n).or (ofMessage rejection) = (unbalanced m).or (ofMessage rejection)) :
    n = m := by
  have hne {k : Int} {remedy : Text} (hremedy : unbalanced k = some remedy) :
      ofMessage rejection ≠ some remedy := by
    intro hmessage
    have hhead := head_unbalanced hremedy
    rcases head_ofMessage hmessage with hother | hother <;>
      · rw [hhead] at hother
        exact absurd hother (by decide)
  have hzero {k : Int} (hnone : unbalanced k = none) : k = 0 := by
    simp only [unbalanced] at hnone
    split_ifs at hnone with hzero
    exact hzero
  cases hn : unbalanced n with
  | none =>
    cases hm : unbalanced m with
    | none => rw [hzero hn, hzero hm]
    | some remedy =>
      rw [hn, hm] at h
      exact absurd h (hne hm)
  | some remedy =>
    cases hm : unbalanced m with
    | none =>
      rw [hn, hm] at h
      exact absurd h.symm (hne hn)
    | some other =>
      rw [hn, hm] at h
      obtain rfl : remedy = other := Option.some.inj h
      exact unbalanced_inj hn hm

variable {rejection : Rejection} {text text' : Text}

theorem head_ne_of_find?_none (hnone : Misspelling.find? text = none) {remedy : Text}
    (hmissing : ¬Complaint.isMissingFrom rejection.message)
    (h : rejection.remedy? text = some remedy) : remedy.head? ≠ some '\'' := by
  rw [remedy?_eq, if_neg hmissing, hnone] at h
  rcases Option.or_eq_some_iff.mp h with hremedy | ⟨-, hmessage⟩
  · split_ifs at hremedy
    rw [head_unbalanced hremedy]
    decide
  · rcases head_ofMessage hmessage with hhead | hhead <;>
      · rw [hhead]
        decide

/-- Two texts get the same suggestion exactly when the message names a missing clause, or the same
word is the first to mistype a keyword and the parentheses, where they are looked at, have the same
surplus. -/
theorem remedy?_eq_remedy?_iff :
    rejection.remedy? text = rejection.remedy? text' ↔
      Complaint.isMissingFrom rejection.message ∨
        (Misspelling.find? text = Misspelling.find? text' ∧
          ((Misspelling.find? text).isSome ∨ Complaint.mentionsBrackets rejection.message = false ∨
            surplus text = surplus text')) := by
  by_cases hmissing : Complaint.isMissingFrom rejection.message
  · simp [remedy?_eq, hmissing]
  have hquoted {text : Text} {found : Misspelling} (hfind : Misspelling.find? text = some found) :
      rejection.remedy? text = some (misspelled found) := by
    rw [remedy?_eq, if_neg hmissing, hfind]
  have hhead (found : Misspelling) : (misspelled found).head? = some '\'' := rfl
  cases hfind : Misspelling.find? text with
  | some found =>
    cases hfind' : Misspelling.find? text' with
    | some found' =>
      rw [hquoted hfind, hquoted hfind', Option.some.injEq]
      have hinj := misspelled_inj (Misspelling.not_mem_of_find? hfind)
        (Misspelling.not_mem_of_find? hfind')
      simp only [hmissing, Option.some.injEq, Option.isSome_some, true_or, and_true, false_or,
        Bool.false_eq_true]
      exact ⟨hinj, congrArg misspelled⟩
    | none =>
      have hne : rejection.remedy? text' ≠ some (misspelled found) := fun h =>
        head_ne_of_find?_none hfind' hmissing h (hhead found)
      simp [hquoted hfind, hne.symm, hmissing]
  | none =>
    cases hfind' : Misspelling.find? text' with
    | some found' =>
      have hne : rejection.remedy? text ≠ some (misspelled found') := fun h =>
        head_ne_of_find?_none hfind hmissing h (hhead found')
      simp [hquoted hfind', hne, hmissing]
    | none =>
      rw [remedy?_eq, remedy?_eq, if_neg hmissing, if_neg hmissing, hfind, hfind']
      cases hmentions : Complaint.mentionsBrackets rejection.message with
      | false => simp
      | true =>
        simp only [hmissing, if_true, Option.isSome_none, Bool.false_eq_true, false_or, true_and,
          reduceCtorEq]
        exact ⟨or_ofMessage_inj, fun h => by rw [h]⟩

end Remedy

open Remedy

/-- What an enclosed text does to the suggestion. Another text in its place leaves the suggestion as
it is exactly when the message names a missing clause, or a keyword is mistyped before it, or the
same word behind that is the first to mistype a keyword and, where none does and the message is
about parentheses, both texts have the same surplus of them. Otherwise the first word that mistypes
a keyword is reported, in the enclosed text as elsewhere, and the parentheses in the enclosed text
count like all others. -/
theorem Rejection.remedy?_around (rejection : Rejection) (enclosure : Enclosure)
    (before inner inner' after : Text) :
    (rejection.remedy? (enclosure.around before after inner) =
        rejection.remedy? (enclosure.around before after inner') ↔
      Complaint.isMissingFrom rejection.message ∨ (Misspelling.find? before).isSome ∨
        ((Misspelling.find? inner).or (Misspelling.find? after) =
            (Misspelling.find? inner').or (Misspelling.find? after) ∧
          (((Misspelling.find? inner).or (Misspelling.find? after)).isSome ∨
            Complaint.mentionsBrackets rejection.message = false ∨
            surplus inner = surplus inner'))) ∧
      (¬Complaint.isMissingFrom rejection.message → Misspelling.find? before = none →
        (∀ found, Misspelling.find? inner = some found →
          rejection.remedy? (enclosure.around before after inner) = some (misspelled found)) ∧
        (Misspelling.find? inner = none → Misspelling.find? after = none →
          Complaint.mentionsBrackets rejection.message →
          surplus before + surplus inner + surplus after ≠ 0 →
          rejection.remedy? (enclosure.around before after inner) =
            unbalanced (surplus before + surplus inner + surplus after))) := by
  constructor
  · have hsurplus : surplus before + surplus inner + surplus after =
        surplus before + surplus inner' + surplus after ↔ surplus inner = surplus inner' := by
      omega
    rw [remedy?_eq_remedy?_iff, Misspelling.find?_around, Misspelling.find?_around, surplus_around,
      surplus_around, hsurplus]
    cases Misspelling.find? before with
    | none => simp
    | some found => simp
  · intro hmissing hbefore
    rw [remedy?_eq, if_neg hmissing, Misspelling.find?_around, hbefore, surplus_around]
    constructor
    · intro found hfound
      rw [hfound]
      rfl
    · intro hinner hafter hmentions hne
      rw [hinner, hafter, if_pos hmentions]
      simp only [Option.or_none, unbalanced, if_neg hne]
      split_ifs <;> rfl

theorem Rejection.remedy?_around_quoted :
    let rejection : Rejection := ⟨"Expected: ), found: EOF", none⟩
    let literal : Enclosure := .literal '\'' rfl
    let around : Text → Text := literal.around "SELECT (a FROM t WHERE b = " " AND (c = 1"
    ¬Complaint.isMissingFrom rejection.message ∧
      Misspelling.find? "SELECT (a FROM t WHERE b = " = none ∧
      Misspelling.find? "x wher y" = some ⟨"WHER", "WHERE"⟩ ∧
      rejection.remedy? (around "x wher y") = some (misspelled ⟨"WHER", "WHERE"⟩) ∧
      rejection.remedy? (around "))(") = unbalanced 1 ∧
      rejection.remedy? (around "))(") = rejection.remedy? (around ") 1") := by
  intro rejection literal around
  have hmissing : ¬Complaint.isMissingFrom rejection.message := by decide +kernel
  have hbefore : Misspelling.find? "SELECT (a FROM t WHERE b = " = none := by decide +kernel
  have hfound : Misspelling.find? "x wher y" = some ⟨"WHER", "WHERE"⟩ := by decide +kernel
  have hparentheses : Misspelling.find? "))(" = none ∧ Misspelling.find? ") 1" = none ∧
      Misspelling.find? " AND (c = 1" = none := by
    decide +kernel
  have hmentions : Complaint.mentionsBrackets rejection.message := by decide +kernel
  obtain ⟨hiff, hnot⟩ := Rejection.remedy?_around rejection literal "SELECT (a FROM t WHERE b = " "))("
    ") 1" " AND (c = 1"
  obtain ⟨-, hcount⟩ := hnot hmissing hbefore
  obtain ⟨-, hwords⟩ := Rejection.remedy?_around rejection literal "SELECT (a FROM t WHERE b = "
    "x wher y" "" " AND (c = 1"
  refine ⟨hmissing, hbefore, hfound, (hwords hmissing hbefore).1 _ hfound, ?_, hiff.mpr ?_⟩
  · exact hcount hparentheses.1 hparentheses.2.2 hmentions (by decide)
  · rw [hparentheses.1, hparentheses.2.1, hparentheses.2.2]
    exact .inr (.inr ⟨rfl, .inr (.inr (by decide))⟩)

/-- Both a parenthesis and a mistyped keyword in a literal change the suggestion. -/
theorem Rejection.not_forall_remedy?_around :
    (¬∀ (rejection : Rejection) (enclosure : Enclosure) (before inner inner' after : Text),
        enclosure.opener ≠ "--".toList → Scan.endMode .code before = .code →
        ¬enclosure.closer <:+: inner → ¬enclosure.closer <:+: inner' →
          rejection.remedy? (enclosure.around before after inner) =
            rejection.remedy? (enclosure.around before after inner')) ∧
      Rejection.remedy? ⟨"Expected: ), found: EOF", none⟩ "SELECT ')' FROM t WHERE (a = 1" ≠
        Rejection.remedy? ⟨"Expected: ), found: EOF", none⟩ "SELECT 'x' FROM t WHERE (a = 1" ∧
      Rejection.remedy? ⟨"something odd", none⟩ "SELECT 'selct' FROM t" ≠
        Rejection.remedy? ⟨"something odd", none⟩ "SELECT 'x' FROM t" := by
  have hdiffer : Rejection.remedy? ⟨"Expected: ), found: EOF", none⟩
        "SELECT ')' FROM t WHERE (a = 1" ≠
      Rejection.remedy? ⟨"Expected: ), found: EOF", none⟩ "SELECT 'x' FROM t WHERE (a = 1" := by
    decide +kernel
  refine ⟨fun hall => hdiffer ?_, hdiffer, by decide +kernel⟩
  exact hall _ (.literal '\'' rfl) "SELECT " ")" "x" " FROM t WHERE (a = 1" (by decide) (by decide)
    (by decide) (by decide)

end QueryLint
