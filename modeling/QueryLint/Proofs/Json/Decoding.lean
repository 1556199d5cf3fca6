import Mathlib.Data.List.Basic
import QueryLint.Proofs.Json.Grammar

/-!
Reading JSON. Every text that denotes a value is read as that value, so that no text denotes two.
-/

namespace QueryLint.Json

open Text

/-! ## The reader -/

def readUnit : Text → Option (Nat × Text)
  | a :: b :: c :: d :: rest => (unitOf? [a, b, c, d]).map fun unit => (unit, rest)
  | _ => none

/-- The character that one or two numbers write, of which the first follows its mark. -/
def readCode (text : Text) : Option (Char × Text) := do
  let (unit, rest) ← readUnit text
  if isHighHalf unit then
    match rest with
    | '\\' :: 'u' :: rest => do
      let (low, rest) ← readUnit rest
      if isLowHalf low then return (ofHalves unit low, rest) else none
    | _ => none
  else if isLowHalf unit then none
  else return (Char.ofNat unit, rest)

def readChar : Text → Option (Char × Text)
  | '\\' :: 'u' :: rest => readCode rest
  | '\\' :: mark :: rest => (escaped? mark).map fun c => (c, rest)
  | c :: rest => if isUnescaped c then some (c, rest) else none
  | [] => none

/-- The characters of a string up to the closing quote; `steps` bounds their number. -/
def readString : Nat → Text → Option (Text × Text)
  | 0, _ => none
  | steps + 1, text =>
    if text.head? = some '"' then some ([], text.tail)
    else do
      let (c, rest) ← readChar text
      let (more, rest) ← readString steps rest
      return (c :: more, rest)

def skipSpaces (text : Text) : Text := text.dropWhile isSpace

/-- Items with commas between them, up to the closing mark; `steps` bounds their number. -/
def readItems {α : Type} (read : Text → Option (α × Text)) (closing : Char) :
    Nat → Text → Option (List α × Text)
  | 0, _ => none
  | steps + 1, text => do
    let (item, rest) ← read text
    match rest with
    | c :: rest =>
      if c = closing then return ([item], rest)
      else if c = ',' then do
        let (items, rest) ← readItems read closing steps rest
        return (item :: items, rest)
      else none
    | [] => none

/-- Items or none, up to the closing mark. -/
def readList {α : Type} (read : Text → Option (α × Text)) (closing : Char) (text : Text) :
    Option (List α × Text) :=
  if (skipSpaces text).head? = some closing then some ([], (skipSpaces text).tail)
  else readItems read closing text.length text

def readMember (read : Text → Option (Value × Text)) (text : Text) :
    Option ((Text × Value) × Text) :=
  match skipSpaces text with
  | '"' :: rest => do
    let (key, rest) ← readString (rest.length + 1) rest
    match skipSpaces rest with
    | ':' :: rest => do
      let (value, rest) ← read rest
      return ((key, value), rest)
    | _ => none
  | _ => none

def readMarked (read : Text → Option (Value × Text)) : Text → Option (Value × Text)
  | '"' :: rest => do
    let (text, rest) ← readString (rest.length + 1) rest
    return (.string text, rest)
  | '[' :: rest => do
    let (items, rest) ← readList read ']' rest
    return (.array items, rest)
  | '\x7b' :: rest => do
    let (members, rest) ← readList (readMember read) '\x7d' rest
    return (.object members, rest)
  | 'n' :: 'u' :: 'l' :: 'l' :: rest => some (.null, rest)
  | 't' :: 'r' :: 'u' :: 'e' :: rest => some (.flag true, rest)
  | 'f' :: 'a' :: 'l' :: 's' :: 'e' :: rest => some (.flag false, rest)
  | _ => none

/-- A value with the white space around it; `depth` bounds the nesting. -/
def readValue : Nat → Text → Option (Value × Text)
  | 0, _ => none
  | depth + 1, text =>
    let text := skipSpaces text
    match numberOf? (text.takeWhile isNumberChar) with
    | some (negative, magnitude) =>
      some (.number negative magnitude, skipSpaces (text.dropWhile isNumberChar))
    | none => (readMarked (readValue depth) text).map fun (value, rest) => (value, skipSpaces rest)

def decode (text : Text) : Option Value :=
  match readValue (text.length + 1) text with
  | some (value, []) => some value
  | _ => none

/-! ## Strings -/

theorem readUnit_append {digits : Text} {unit : Nat} (h : unitOf? digits = some unit)
    (rest : Text) : readUnit (digits ++ rest) = some (unit, rest) := by
  unfold unitOf? at h
  split at h
  · rename_i a b c d
    have hunit : unitOf? [a, b, c, d] = some unit := h
    simp [readUnit, hunit]
  · cases h

theorem WrittenChar.readChar_append {written : Text} {c : Char} (h : WrittenChar written c)
    (rest : Text) : readChar (written ++ rest) = some (c, rest) := by
  cases h with
  | unescaped hplain =>
    have hslash : c ≠ '\\' := by
      rintro rfl
      exact absurd hplain (by decide)
    simp [readChar, hslash, hplain]
  | @escaped mark _ hmark =>
    have hletter : mark ≠ 'u' := by
      rintro rfl
      cases hmark
    simp [readChar, hmark]
  | unit hunit high low => simp [readChar, readCode, readUnit_append hunit, high, low]
  | halves hhigh hlow isHigh isLow =>
    simp [readChar, readCode, readUnit_append hhigh, readUnit_append hlow, isHigh, isLow]

theorem WrittenChar.exists_cons {written : Text} {c : Char} (h : WrittenChar written c) :
    ∃ first more, written = first :: more ∧ first ≠ '"' := by
  cases h with
  | unescaped hplain =>
    refine ⟨c, [], rfl, ?_⟩
    rintro rfl
    exact absurd hplain (by decide)
  | escaped hmark => exact ⟨_, _, rfl, by decide⟩
  | unit hunit high low => exact ⟨_, _, rfl, by decide⟩
  | halves hhigh hlow isHigh isLow => exact ⟨_, _, rfl, by decide⟩

theorem WrittenText.readString_append {written text : Text} (h : WrittenText written text)
    {steps : Nat} (hsteps : written.length < steps) (rest : Text) :
    readString steps (written ++ '"' :: rest) = some (text, rest) := by
  induction h generalizing steps with
  | nil =>
    obtain ⟨steps, rfl⟩ := Nat.exists_eq_add_one_of_ne_zero (Nat.ne_of_gt hsteps)
    rfl
  | @cons written more c text hchar _ ih =>
    obtain ⟨steps, rfl⟩ := Nat.exists_eq_add_one_of_ne_zero (Nat.ne_of_gt (Nat.zero_lt_of_lt hsteps))
    obtain ⟨first, others, hwritten, hquote⟩ := hchar.exists_cons
    have hlength : more.length < steps := by
      rw [hwritten] at hsteps
      simp only [List.length_append, List.length_cons] at hsteps
      omega
    have hhead : (written ++ more ++ '"' :: rest).head? ≠ some '"' := by
      simpa [hwritten] using hquote
    rw [readString, if_neg hhead, List.append_assoc, hchar.readChar_append]
    simp [ih hlength]

/-! ## White space -/

theorem skipSpaces_append {spaces : Text} (h : Spaces spaces) (rest : Text) :
    skipSpaces (spaces ++ rest) = skipSpaces rest := List.dropWhile_append_of_pos h

theorem skipSpaces_cons {c : Char} (h : isSpace c = false) (rest : Text) :
    skipSpaces (c :: rest) = c :: rest := by simp [skipSpaces, h]

/-- The text after a number, in which the number does not go on. -/
def Stops (rest : Text) : Prop := ∀ c ∈ rest.head?, isNumberChar c = false

theorem stops_cons {c : Char} (h : isNumberChar c = false) (rest : Text) : Stops (c :: rest) := by
  intro d hd
  obtain rfl : c = d := Option.some.inj hd
  exact h

theorem isNumberChar_of_isSpace {c : Char} (h : isSpace c) : isNumberChar c = false := by
  simp only [isSpace, Bool.or_eq_true, decide_eq_true_eq] at h
  rcases h with ((rfl | rfl) | rfl) | rfl <;> decide

theorem Stops.append {spaces rest : Text} (hspaces : Spaces spaces) (hrest : Stops rest) :
    Stops (spaces ++ rest) := by
  cases spaces with
  | nil => exact hrest
  | cons c spaces =>
    exact stops_cons (isNumberChar_of_isSpace (hspaces c List.mem_cons_self)) _

/-! ## Lists -/

theorem join_cons_cons (piece next : Text) (pieces : List Text) :
    join [','] (piece :: next :: pieces) = piece ++ ',' :: join [','] (next :: pieces) := by
  simp [join]

theorem length_le_length_join (pieces : List Text) :
    pieces.length ≤ (join [','] pieces).length + 1 := by
  induction pieces with
  | nil => simp
  | cons piece pieces ih =>
    cases pieces with
    | nil => simp
    | cons next pieces =>
      rw [join_cons_cons]
      simp only [List.length_append, List.length_cons] at ih ⊢
      omega

theorem length_le_of_mem_join {piece : Text} {pieces : List Text} (h : piece ∈ pieces) :
    piece.length ≤ (join [','] pieces).length := by
  induction pieces with
  | nil => cases h
  | cons first pieces ih =>
    cases pieces with
    | nil =>
      obtain rfl := List.mem_singleton.mp h
      exact Nat.le_refl _
    | cons next pieces =>
      rw [join_cons_cons, List.length_append, List.length_cons]
      rcases List.mem_cons.mp h with rfl | h
      · omega
      · have hle := ih h
        omega

section Lists

variable {α : Type} {read : Text → Option (α × Text)} {closing : Char}
  (hclosing : isSpace closing = false ∧ isNumberChar closing = false ∧ closing ≠ ',')
  {spaces : Text} (hspaces : Spaces spaces)
include hclosing hspaces

theorem exists_stops (piece : Text) (pieces : List Text) (rest : Text) :
    ∃ behind, join [','] (piece :: pieces) ++ (spaces ++ closing :: rest) = piece ++ behind ∧
      Stops behind := by
  cases pieces with
  | nil => exact ⟨_, rfl, .append hspaces (stops_cons hclosing.2.1 _)⟩
  | cons next pieces =>
    rw [join_cons_cons, List.append_assoc]
    exact ⟨_, rfl, stops_cons (by decide) _⟩

theorem readItems_append {items : List (Text × α)} (hne : items ≠ [])
    (hread : ∀ item ∈ items, ∀ rest, Stops rest →
      read (item.1 ++ rest) = some (item.2, skipSpaces rest))
    {steps : Nat} (hsteps : items.length ≤ steps) (rest : Text) :
    readItems read closing steps (join [','] (items.map Prod.fst) ++ (spaces ++ closing :: rest)) =
      some (items.map Prod.snd, rest) := by
  induction items generalizing steps with
  | nil => exact absurd rfl hne
  | cons item items ih =>
    obtain ⟨hitem, hitems⟩ := List.forall_mem_cons.mp hread
    obtain ⟨steps, rfl⟩ := Nat.exists_eq_add_one_of_ne_zero
      (Nat.ne_of_gt (Nat.lt_of_lt_of_le (by simp) hsteps))
    cases items with
    | nil =>
      have hstops : Stops (spaces ++ closing :: rest) :=
        .append hspaces (stops_cons hclosing.2.1 _)
      rw [readItems, List.map_singleton, join, hitem _ hstops, skipSpaces_append hspaces,
        skipSpaces_cons hclosing.1]
      simp
    | cons next items =>
      have hmore := ih (by simp) hitems (by simpa using hsteps)
      have hcomma (rest : Text) := hitem (',' :: rest) (stops_cons (by decide) rest)
      rw [List.map_cons, List.map_cons] at hmore ⊢
      rw [join_cons_cons, List.append_assoc, List.cons_append, readItems, hcomma,
        skipSpaces_cons (by decide)]
      simp [hclosing.2.2.symm, hmore]

theorem readList_append {items : List (Text × α)}
    (hread : ∀ item ∈ items, ∀ rest, Stops rest →
      read (item.1 ++ rest) = some (item.2, skipSpaces rest))
    (hnone : ∀ text, (skipSpaces text).head? = some closing → read text = none) (rest : Text) :
    readList read closing (join [','] (items.map Prod.fst) ++ (spaces ++ closing :: rest)) =
      some (items.map Prod.snd, rest) := by
  cases items with
  | nil =>
    have hskip : skipSpaces (spaces ++ closing :: rest) = closing :: rest := by
      rw [skipSpaces_append hspaces, skipSpaces_cons hclosing.1]
    simp [readList, join, hskip]
  | cons item items =>
    -- an item is no closing mark, as it can be read
    have hhead : (skipSpaces (join [','] ((item :: items).map Prod.fst) ++
        (spaces ++ closing :: rest))).head? ≠ some closing := by
      intro h
      obtain ⟨behind, htext, hstops⟩ :=
        exists_stops hclosing hspaces item.1 (items.map Prod.fst) rest
      have hsome := hread item List.mem_cons_self behind hstops
      rw [← htext, ← List.map_cons, hnone _ h] at hsome
      cases hsome
    have hlength := length_le_length_join ((item :: items).map Prod.fst)
    rw [List.length_map] at hlength
    rw [readList, if_neg hhead]
    apply readItems_append hclosing hspaces (by simp) hread
    simp only [List.length_append, List.length_cons] at hlength ⊢
    omega

end Lists

/-! ## Values -/

theorem readMember_append {read : Text → Option (Value × Text)} {member : Member}
    (hkey : WrittenKey member.keyText member.key) {rest : Text}
    (hread : read (member.valueText ++ rest) = some (member.value, skipSpaces rest)) :
    readMember read (member.text ++ rest) = some (member.pair, skipSpaces rest) := by
  obtain ⟨before, written, after, hbefore, hafter, hwritten, hkeyText⟩ := hkey
  have hquote : skipSpaces (member.text ++ rest) =
      '"' :: (written ++ '"' :: (after ++ ':' :: (member.valueText ++ rest))) := by
    simp only [Member.text, hkeyText, List.append_assoc, List.cons_append]
    rw [skipSpaces_append hbefore, skipSpaces_cons (by decide)]
  have hcolon : skipSpaces (after ++ ':' :: (member.valueText ++ rest)) =
      ':' :: (member.valueText ++ rest) := by
    rw [skipSpaces_append hafter, skipSpaces_cons (by decide)]
  simp only [readMember, hquote]
  rw [hwritten.readString_append (by simp only [List.length_append]; omega)]
  simp [hcolon, hread, Member.pair]

theorem readMember_eq_none (read : Text → Option (Value × Text)) {text : Text}
    (h : (skipSpaces text).head? = some '\x7d') : readMember read text = none := by
  obtain ⟨rest, hrest⟩ := List.head?_eq_some_iff.mp h
  simp [readMember, hrest]

/-- What does not begin like a number is read by its first mark. -/
theorem readValue_of_mark {text rest : Text} {c : Char} (h : skipSpaces text = c :: rest)
    (hc : isNumberChar c = false) (depth : Nat) :
    readValue (depth + 1) text =
      (readMarked (readValue depth) (c :: rest)).map fun (value, rest) => (value, skipSpaces rest) := by
  have htoken : (c :: rest).takeWhile isNumberChar = [] := by simp [hc]
  have hnumber : numberOf? [] = none := rfl
  simp only [readValue, h, htoken, hnumber]

theorem readValue_eq_none (depth : Nat) {text : Text}
    (h : (skipSpaces text).head? = some ']') : readValue depth text = none := by
  cases depth with
  | zero => rfl
  | succ depth =>
    obtain ⟨rest, hrest⟩ := List.head?_eq_some_iff.mp h
    rw [readValue_of_mark hrest (by decide)]
    rfl

theorem isNumberChar_of_numberOf? {text : Text} {number : Bool × Decimal}
    (h : numberOf? text = some number) : (∀ c ∈ text, isNumberChar c) ∧ text ≠ [] := by
  rw [numberOf?] at h
  split at h
  · rename_i hboth
    rw [Bool.and_eq_true, List.all_eq_true] at hboth
    refine ⟨hboth.1, ?_⟩
    rintro rfl
    cases h
  · cases h

theorem isSpace_of_isNumberChar {c : Char} (h : isNumberChar c) : isSpace c = false := by
  by_contra hspace
  rw [Bool.not_eq_false] at hspace
  rw [isNumberChar_of_isSpace hspace] at h
  cases h

theorem readValue_number {text : Text} {negative : Bool} {magnitude : Decimal}
    (h : numberOf? text = some (negative, magnitude)) {rest : Text} (hrest : Stops rest)
    (depth : Nat) :
    readValue (depth + 1) (text ++ rest) = some (.number negative magnitude, skipSpaces rest) := by
  obtain ⟨hchars, hne⟩ := isNumberChar_of_numberOf? h
  have hskip : skipSpaces (text ++ rest) = text ++ rest := by
    obtain ⟨c, more, rfl⟩ := List.exists_cons_of_ne_nil hne
    exact skipSpaces_cons (isSpace_of_isNumberChar (hchars c List.mem_cons_self)) _
  have hstop : rest.takeWhile isNumberChar = [] ∧ rest.dropWhile isNumberChar = rest := by
    cases rest with
    | nil => exact ⟨rfl, rfl⟩
    | cons c rest => simp [hrest c rfl]
  have htoken : (text ++ rest).takeWhile isNumberChar = text := by
    rw [List.takeWhile_append_of_pos hchars, hstop.1, List.append_nil]
  have hbehind : (text ++ rest).dropWhile isNumberChar = rest := by
    rw [List.dropWhile_append_of_pos hchars, hstop.2]
  simp only [readValue, hskip, htoken, hbehind, h]

theorem readValue_marked {c : Char} {text rest : Text} {value : Value} {depth : Nat}
    (hc : isSpace c = false ∧ isNumberChar c = false)
    (h : readMarked (readValue depth) (c :: text) = some (value, rest)) :
    readValue (depth + 1) (c :: text) = some (value, skipSpaces rest) := by
  rw [readValue_of_mark (skipSpaces_cons hc.1 text) hc.2, h]
  rfl

/-- The text of a value is read as the value, before any text in which a number does not go on. -/
theorem Denotes.readValue_append {text : Text} {value : Value} (h : Denotes text value)
    {depth : Nat} (hdepth : text.length < depth) {rest : Text} (hrest : Stops rest) :
    readValue depth (text ++ rest) = some (value, skipSpaces rest) := by
  obtain ⟨depth, rfl⟩ := Nat.exists_eq_add_one_of_ne_zero (Nat.ne_of_gt (Nat.zero_lt_of_lt hdepth))
  induction h generalizing depth rest with
  | null => exact readValue_marked (by decide) rfl
  | flag value => cases value <;> exact readValue_marked (by decide) rfl
  | number hnumber => exact readValue_number hnumber hrest depth
  | @string written text hwritten =>
    have hstring : readMarked (readValue depth) ('"' :: (written ++ '"' :: rest)) =
        some (.string text, rest) := by
      rw [readMarked, hwritten.readString_append (by simp only [List.length_append]; omega)]
      rfl
    rw [List.cons_append, List.append_assoc, List.singleton_append]
    exact readValue_marked (by decide) hstring
  | @array items spaces hspaces _ ih =>
    have hitems : ∀ item ∈ items, ∀ rest, Stops rest →
        readValue depth (item.1 ++ rest) = some (item.2, skipSpaces rest) := by
      intro item hitem rest hrest
      have hle := length_le_of_mem_join (List.mem_map_of_mem hitem : item.1 ∈ items.map Prod.fst)
      simp only [List.length_cons, List.length_append, List.length_nil] at hdepth
      obtain ⟨depth, rfl⟩ := Nat.exists_eq_add_one_of_ne_zero (n := depth) (by omega)
      exact ih item hitem hrest depth (by omega)
    have hlist : readMarked (readValue depth) ('[' :: (join [','] (items.map Prod.fst) ++
        (spaces ++ ']' :: rest))) = some (.array (items.map Prod.snd), rest) := by
      rw [readMarked, readList_append (by decide) hspaces hitems fun _ => readValue_eq_none depth]
      rfl
    rw [List.cons_append, List.append_assoc, List.append_assoc, List.singleton_append]
    exact readValue_marked (by decide) hlist
  | @object members spaces hspaces hkeys _ ih =>
    have hmembers : ∀ item ∈ members.map fun member => (member.text, member.pair), ∀ rest,
        Stops rest → readMember (readValue depth) (item.1 ++ rest) =
          some (item.2, skipSpaces rest) := by
      intro item hitem rest hrest
      obtain ⟨member, hmember, rfl⟩ := List.mem_map.mp hitem
      have hle := length_le_of_mem_join (List.mem_map_of_mem (f := Member.text) hmember)
      simp only [List.length_cons, List.length_append, List.length_nil, Member.text] at hdepth hle
      obtain ⟨depth, rfl⟩ := Nat.exists_eq_add_one_of_ne_zero (n := depth) (by omega)
      exact readMember_append (hkeys member hmember) (ih member hmember hrest depth (by omega))
    have hlist : readMarked (readValue depth) ('\x7b' :: (join [','] (members.map Member.text) ++
        (spaces ++ '\x7d' :: rest))) = some (.object (members.map Member.pair), rest) := by
      have hread := readList_append (by decide) hspaces hmembers
        (fun _ => readMember_eq_none (readValue depth)) rest
      rw [List.map_map, List.map_map] at hread
      rw [readMarked]
      simp only [Function.comp_def] at hread
      rw [hread]
      rfl
    rw [List.cons_append, List.append_assoc, List.append_assoc, List.singleton_append]
    exact readValue_marked (by decide) hlist
  | @spaced before text after value hbefore hafter _ ih =>
    have hskip : skipSpaces (before ++ (text ++ after) ++ rest) = skipSpaces (text ++ (after ++ rest)) := by
      rw [List.append_assoc, skipSpaces_append hbefore, List.append_assoc]
    simp only [List.length_append] at hdepth
    have hread := ih (hrest.append hafter) depth (by omega)
    rw [readValue] at hread ⊢
    rw [hskip, hread, skipSpaces_append hafter]

theorem decode_of_denotes {text : Text} {value : Value} (h : Denotes text value) :
    decode text = some value := by
  have hread := h.readValue_append (Nat.lt_add_one _) (by simp [Stops] : Stops [])
  rw [List.append_nil] at hread
  rw [decode, hread]
  rfl

theorem Denotes.unique {text : Text} {value other : Value} (h : Denotes text value)
    (hother : Denotes text other) : value = other := by
  have hsame := decode_of_denotes h
  rw [decode_of_denotes hother] at hsame
  exact (Option.some.inj hsame).symm

example : decode " [ \"\\ud83d\\ude00\\n\" , -0.5e+1, \x7b\"a\":null\x7d ] " =
    some (.array [.string ['😀', '\n'], .number true ⟨5, 0⟩, .object [(['a'], .null)]]) := by
  cbv

end QueryLint.Json
