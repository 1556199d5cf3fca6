import QueryLint.Proofs.ItemSplitting
import QueryLint.Proofs.Searching
import QueryLint.Proofs.WrittenClauses
import QueryLint.TableList

/-!
The tables of a FROM clause as they are written: a dotted path of names, each bare or between
quotes, and an alias after white space. What is written reads alone as it does in front of any
other text, holds none of the words that keywords consist of, and its bare name is the last one of
the path.
-/

namespace QueryLint

open Keyword Scan

/-- A text that reads alone as it does in front of any other text, which it leaves to begin in the
code. -/
def SelfContained (text : Text) : Prop := ∀ back, scan (text ++ back) = scan text ++ scan back

theorem SelfContained.append {front back : Text} (hfront : SelfContained front)
    (hback : SelfContained back) : SelfContained (front ++ back) := by
  intro rest
  rw [List.append_assoc, hfront, hback, hfront, List.append_assoc]

theorem scan_of_plain {text : Text} (h : ∀ c ∈ text, isPlain c) : scan text = asCode text := by
  have hscan := scan_append_of_plain [] h
  rwa [List.append_nil, scan_nil, List.append_nil] at hscan

theorem selfContained_of_plain {text : Text} (h : ∀ c ∈ text, isPlain c) : SelfContained text := by
  intro back
  rw [scan_append_of_plain back h, scan_of_plain h]

/-- Whether a character can stand in a name. -/
def isNameChar (c : Char) : Bool := Text.isAlphanumeric c || c = '_'

/-- Whether a character stands between names: it begins no literal and no comment. -/
def isBreak (c : Char) : Bool := isPlain c && !isNameChar c

inductive NameQuoting
  | bare
  | doubleQuotes
  | backticks
  | brackets
  deriving DecidableEq, Repr

namespace NameQuoting

def opener : NameQuoting → Text
  | bare => ""
  | doubleQuotes => "\""
  | backticks => "`"
  | brackets => "["

def closer : NameQuoting → Text
  | bare => ""
  | doubleQuotes => "\""
  | backticks => "`"
  | brackets => "]"

/-- What the name belongs to; brackets are no quotes of a literal. -/
def region : NameQuoting → Region
  | bare => .code
  | doubleQuotes => .quoted
  | backticks => .quoted
  | brackets => .code

theorem code_or_literal (quoting : NameQuoting) :
    (quoting.region = .code ∧ (∀ c ∈ quoting.opener, isBreak c) ∧ ∀ c ∈ quoting.closer, isBreak c) ∨
      ∃ mark, isQuote mark ∧ quoting.opener = [mark] ∧ quoting.closer = [mark] := by
  cases quoting with
  | bare => exact .inl ⟨rfl, by simp [opener], by simp [closer]⟩
  | doubleQuotes => exact .inr ⟨'"', rfl, rfl, rfl⟩
  | backticks => exact .inr ⟨'`', rfl, rfl, rfl⟩
  | brackets => exact .inl ⟨rfl, List.all_eq_true.mp (by decide), List.all_eq_true.mp (by decide)⟩

theorem isNameQuote (quoting : NameQuoting) :
    ∀ c ∈ quoting.opener ++ quoting.closer, QueryLint.isNameQuote c := by
  apply List.all_eq_true.mp
  cases quoting <;> decide

end NameQuoting

namespace TableList

/-- The words that keywords around the tables of a list consist of. -/
def listWords : List Text :=
  "JOIN" :: "ON" :: "USING" :: (joinModifiers ++ Clause.words)

end TableList

/-- A name as it stands in a list of tables. Where the code shows it, it is none of the words of
the list. -/
structure WrittenName where
  quoting : NameQuoting
  word : Text
  ne_nil : word ≠ []
  isName : ∀ c ∈ word, isNameChar c
  unreserved : quoting.region = .code →
    ∀ part ∈ ("AS" : Text) :: TableList.listWords, Text.sameLetters word part = false

namespace WrittenName

def text (name : WrittenName) : Text := name.quoting.opener ++ (name.word ++ name.quoting.closer)

end WrittenName

/-- The second name of a table, after white space and the word AS, which may be left out. -/
structure WrittenAlias where
  gap : Gap
  keyword : Option ({ text : Text // Text.sameLetters text "AS" } × Gap)
  name : WrittenName

abbrev Blanks := { space : Text // Text.allBlank space }

structure WrittenTable where
  qualifiers : List WrittenName
  name : WrittenName
  asName : Option WrittenAlias

namespace WrittenAlias

def text (other : WrittenAlias) : Text :=
  other.gap.1 ++
    match other.keyword with
    | some (keyword, gap) => keyword.1 ++ (gap.1 ++ other.name.text)
    | none => other.name.text

end WrittenAlias

namespace WrittenTable

/-- The dotted path to the table. -/
def path (table : WrittenTable) : Text :=
  table.qualifiers.flatMap (fun qualifier => qualifier.text ++ ['.']) ++ table.name.text

def text (table : WrittenTable) : Text :=
  table.path ++ (table.asName.map WrittenAlias.text).getD []

end WrittenTable

theorem isNameChar_iff {c : Char} : isNameChar c ↔ Text.isAlphanumeric c ∨ c = '_' := by
  simp [isNameChar]

theorem isPlain_of_isNameChar {c : Char} (h : isNameChar c) : isPlain c := by
  rcases isNameChar_iff.mp h with halpha | rfl
  · exact isPlain_of_isAlphanumeric halpha
  · decide

theorem isPlain_of_isName {word : Text} (h : ∀ c ∈ word, isNameChar c) : ∀ c ∈ word, isPlain c :=
  fun c hc => isPlain_of_isNameChar (h c hc)

/-- A text without comments and without the words of a list of tables, which reads the same in
front of any other text. -/
structure Quiet (text : Text) : Prop where
  selfContained : SelfContained text
  uncommented : ∀ mark ∈ scan text, mark.2 ≠ .comment
  noWord : ∀ part ∈ TableList.listWords, NoWord part (scan text)

theorem Quiet.append {front back : Text} (hfront : Quiet front) (hback : Quiet back)
    (hapart : Apart (scan front) (scan back)) : Quiet (front ++ back) := by
  refine ⟨hfront.selfContained.append hback.selfContained, ?_, ?_⟩
  · rw [hfront.selfContained]
    exact List.forall_mem_append.mpr ⟨hfront.uncommented, hback.uncommented⟩
  · intro part hpart
    rw [hfront.selfContained]
    exact (hfront.noWord part hpart).append (hback.noWord part hpart) hapart

theorem quiet_of_plain {text : Text} (h : ∀ c ∈ text, isPlain c)
    (hword : ∀ part ∈ TableList.listWords, NoWord part (asCode text)) : Quiet text := by
  have hscan := scan_of_plain h
  refine ⟨selfContained_of_plain h, ?_, hscan ▸ hword⟩
  rw [hscan]
  intro mark hmark
  obtain ⟨c, -, rfl⟩ := List.mem_map.mp hmark
  simp

section Breaks

variable {text : Text} (h : ∀ c ∈ text, isBreak c)
include h

theorem isPlain_of_isBreak : ∀ c ∈ text, isPlain c :=
  fun c hc => (Bool.and_eq_true_iff.mp (h c hc)).1

theorem scan_of_isBreak : scan text = asCode text := scan_of_plain (isPlain_of_isBreak h)

theorem isWord_of_isBreak : ∀ mark ∈ asCode text, mark.isWord = false := by
  intro mark hmark
  obtain ⟨c, hc, rfl⟩ := List.mem_map.mp hmark
  have hname := (Bool.and_eq_true_iff.mp (h c hc)).2
  simpa [Marked.isWord, isNameChar] using hname

theorem quiet_of_isBreak : Quiet text :=
  quiet_of_plain (isPlain_of_isBreak h) fun _ _ => noWord_of_not_word (isWord_of_isBreak h)

theorem apart_left (back : List Marked) : Apart (scan text) back := by
  rw [scan_of_isBreak h]
  exact .inl fun mark hmark => isWord_of_isBreak h mark (List.mem_of_getLast? hmark)

theorem apart_right (front : List Marked) : Apart front (scan text) := by
  rw [scan_of_isBreak h]
  exact .inr fun mark hmark => isWord_of_isBreak h mark (List.mem_of_mem_head? hmark)

theorem apart_right_append (hne : text ≠ []) (front : List Marked) (back : Text) :
    Apart front (scan (text ++ back)) := by
  have hhead : (asCode text ++ scan back).head? = (asCode text).head? :=
    List.head?_append_of_ne_nil _ (by simpa [asCode] using hne)
  rw [scan_append_of_plain back (isPlain_of_isBreak h), Apart, hhead]
  exact .inr fun mark hmark => isWord_of_isBreak h mark (List.mem_of_mem_head? hmark)

end Breaks

theorem isNameChar_of_isBlank {c : Char} (h : Text.isBlank c) : isNameChar c = false := by
  simp [isNameChar, Text.not_isAlphanumeric_of_isBlank h]

theorem isBreak_of_allBlank {space : Text} (h : Text.allBlank space) : ∀ c ∈ space, isBreak c := by
  intro c hc
  have hblank : Text.isBlank c := List.all_eq_true.mp h c hc
  simp [isBreak, isPlain_of_isBlank hblank, isNameChar_of_isBlank hblank]

section Around

variable {before body after : Text} (hquiet : Quiet body) (hbefore : Text.allBlank before)
  (hafter : Text.allBlank after)
include hquiet hbefore hafter

/-- White space around a text makes no difference to its words. -/
theorem Quiet.around : Quiet (before ++ (body ++ after)) := by
  have hback := hquiet.append (quiet_of_isBreak (isBreak_of_allBlank hafter))
    (apart_right (isBreak_of_allBlank hafter) _)
  exact (quiet_of_isBreak (isBreak_of_allBlank hbefore)).append hback
    (apart_left (isBreak_of_allBlank hbefore) _)

theorem Quiet.scan_around :
    scan (before ++ (body ++ after)) = asCode before ++ (scan body ++ asCode after) := by
  have hfront := isPlain_of_isBreak (isBreak_of_allBlank hbefore)
  rw [scan_append_of_plain _ hfront, hquiet.selfContained,
    scan_of_isBreak (isBreak_of_allBlank hafter)]

end Around

theorem Gap.isBreak (gap : Gap) : ∀ c ∈ gap.1, isBreak c := isBreak_of_allBlank gap.2.2

theorem isWord_of_isName {word : Text} (h : ∀ c ∈ word, isNameChar c) :
    ∀ mark ∈ asCode word, mark.isWord := by
  intro mark hmark
  obtain ⟨c, hc, rfl⟩ := List.mem_map.mp hmark
  simpa [Marked.isWord, isNameChar] using h c hc

theorem isWord_head_scan {text : Text} (h : ∀ c ∈ text.head?, isNameChar c = false) :
    ∀ mark ∈ (scan text).head?, mark.isWord = false := by
  intro mark hmark
  rw [← Scan.map_fst_scan text, List.head?_map] at h
  have hname := h mark.1 (Option.mem_map_of_mem _ hmark)
  simp only [isNameChar] at hname
  simp [Marked.isWord, hname]

theorem quiet_of_word {word : Text} (hne : word ≠ []) (hname : ∀ c ∈ word, isNameChar c)
    (hother : ∀ part ∈ TableList.listWords, Text.sameLetters word part = false) : Quiet word := by
  refine quiet_of_plain (isPlain_of_isName hname) fun part hpart => ?_
  have hspells : Spells Marked.isBlank [word] (asCode word) :=
    .last ⟨by simpa [asCode] using hne, isWord_of_isName hname, by simp [Text.sameLetters]⟩
  exact noWord_of_spells hspells (by simpa using hother part hpart)

theorem quiet_literal {mark : Char} {word : Text} (hmark : isQuote mark)
    (hword : ∀ c ∈ word, isPlain c) : Quiet ([mark] ++ (word ++ [mark])) := by
  have hinside : ¬[mark] <:+: word := by
    intro hinside
    have hplain := hword mark (hinside.subset List.mem_cons_self)
    simp [isPlain, hmark] at hplain
  have hscan (back : Text) : scan (([mark] ++ (word ++ [mark])) ++ back) =
      ([mark] ++ (word ++ [mark])).map (fun c => (c, .quoted)) ++ scan back := by
    have henclosure := scan_enclosure (.literal mark hmark) hinside back
    simpa [Enclosure.opener, Enclosure.closer, Enclosure.marks, Enclosure.closerMarks,
      Enclosure.region] using henclosure
  have hself := hscan []
  rw [List.append_nil, scan_nil, List.append_nil] at hself
  have hquoted : ∀ other ∈ scan ([mark] ++ (word ++ [mark])), other.2 = .quoted := by
    rw [hself]
    intro other hother
    obtain ⟨c, -, rfl⟩ := List.mem_map.mp hother
    rfl
  refine ⟨fun back => by rw [hscan, hself], fun other hother => ?_, fun part _ => ?_⟩
  · simp [hquoted other hother]
  · refine noWord_of_not_word fun other hother => ?_
    simp [Marked.isWord, hquoted other hother]

theorem WrittenName.quiet (name : WrittenName) : Quiet name.text := by
  rcases name.quoting.code_or_literal with ⟨hregion, hopener, hcloser⟩ | ⟨mark, hmark, hopener, hcloser⟩
  · have hword : Quiet name.word := quiet_of_word name.ne_nil name.isName fun part hpart =>
      name.unreserved hregion part (List.mem_cons_of_mem _ hpart)
    have hback := hword.append (quiet_of_isBreak hcloser) (apart_right hcloser _)
    exact (quiet_of_isBreak hopener).append hback (apart_left hopener _)
  · rw [text, hopener, hcloser]
    exact quiet_literal hmark (isPlain_of_isName name.isName)

theorem isNameChar_of_sameLetters {word part : Text} (h : Text.sameLetters word part)
    (hpart : isLetters part) : word ≠ [] ∧ ∀ c ∈ word, isNameChar c := by
  obtain ⟨hne, hall⟩ := isAlphanumeric_of_sameLetters h hpart
  exact ⟨hne, fun c hc => isNameChar_iff.mpr (.inl (hall c hc))⟩

theorem quiet_as {word : Text} (h : Text.sameLetters word "AS") : Quiet word := by
  have hother : ∀ part ∈ TableList.listWords, Text.sameLetters "AS" part = false := by
    decide +kernel
  obtain ⟨hne, hname⟩ := isNameChar_of_sameLetters h (by decide)
  refine quiet_of_word hne hname fun part hpart => ?_
  rw [sameLetters_congr h, hother part hpart]

theorem WrittenAlias.quiet (other : WrittenAlias) : Quiet other.text := by
  obtain ⟨gap, keyword, name⟩ := other
  have hgap := quiet_of_isBreak gap.isBreak
  cases keyword with
  | none => exact hgap.append name.quiet (apart_left gap.isBreak _)
  | some found =>
    obtain ⟨keyword, space⟩ := found
    have hname := (quiet_of_isBreak space.isBreak).append name.quiet (apart_left space.isBreak _)
    have hrest := (quiet_as keyword.2).append hname (apart_right_append space.isBreak space.2.1 _ _)
    exact hgap.append hrest (apart_left gap.isBreak _)

namespace WrittenTable

variable (table : WrittenTable)

theorem quiet_path : Quiet table.path := by
  obtain ⟨qualifiers, name, other⟩ := table
  have hdot : ∀ c ∈ ['.'], isBreak c := List.all_eq_true.mp (by decide)
  induction qualifiers with
  | nil => exact name.quiet
  | cons qualifier qualifiers ih =>
    have hrest := (quiet_of_isBreak hdot).append ih (apart_left hdot _)
    have hall := qualifier.quiet.append hrest (apart_right_append hdot (by simp) _ _)
    simpa [path] using hall

theorem quiet : Quiet table.text := by
  have hpath := table.quiet_path
  obtain ⟨qualifiers, name, other⟩ := table
  cases other with
  | none => simpa [text] using hpath
  | some other =>
    refine hpath.append other.quiet ?_
    exact apart_right_append other.gap.isBreak other.gap.2.1 _ _

end WrittenTable

def isPathChar (c : Char) : Bool := isNameChar c || isNameQuote c || c = '.'

theorem isPathChar_iff {c : Char} :
    isPathChar c ↔ (isNameChar c ∨ isNameQuote c) ∨ c = '.' := by
  simp [isPathChar]

theorem eq_false_of_isNameQuote {p : Char → Bool} (hp : ['"', '`', '[', ']'].all fun c => !p c)
    {c : Char} (h : isNameQuote c) : p c = false := by
  have hc : c ∈ ['"', '`', '[', ']'] := by
    simpa [isNameQuote, or_assoc] using h
  simpa using List.all_eq_true.mp hp c hc

theorem isBlank_of_isPathChar {c : Char} (h : isPathChar c) : Text.isBlank c = false := by
  by_contra hblank
  have hblank : Text.isBlank c := by simpa using hblank
  rcases isPathChar_iff.mp h with (hname | hquote) | rfl
  · have hnot := Text.not_isAlphanumeric_of_isBlank hblank
    rcases isNameChar_iff.mp hname with halpha | hunder
    · rw [hnot.1] at halpha
      cases halpha
    · exact hnot.2 hunder
  · rw [eq_false_of_isNameQuote (p := Text.isBlank) (by decide) hquote] at hblank
    cases hblank
  · exact absurd hblank (by decide)

theorem ne_of_isPathChar {c d : Char} (h : isPathChar c) (hd : isPathChar d = false) : c ≠ d := by
  rintro rfl
  rw [h] at hd
  cases hd

namespace WrittenName

theorem isPathChar (name : WrittenName) : ∀ c ∈ name.text, isPathChar c := by
  intro c hc
  have hquotes := name.quoting.isNameQuote
  simp only [text, List.mem_append] at hc hquotes
  apply isPathChar_iff.mpr
  rcases hc with hc | hc | hc
  · exact .inl (.inr (hquotes c (.inl hc)))
  · exact .inl (.inl (name.isName c hc))
  · exact .inl (.inr (hquotes c (.inr hc)))

theorem not_mem_dot (name : WrittenName) : '.' ∉ name.text := by
  intro hdot
  have hquotes := name.quoting.isNameQuote
  simp only [text, List.mem_append] at hdot hquotes
  rcases hdot with hdot | hdot | hdot
  · exact absurd (hquotes '.' (.inl hdot)) (by decide)
  · exact absurd (name.isName '.' hdot) (by decide)
  · exact absurd (hquotes '.' (.inr hdot)) (by decide)

theorem text_ne_nil (name : WrittenName) : name.text ≠ [] := by
  simp [text, name.ne_nil]

theorem dropQuotes (name : WrittenName) :
    Text.dropWhileEnd isNameQuote (name.text.dropWhile isNameQuote) = name.word := by
  have hquotes := name.quoting.isNameQuote
  have hword : ∀ c ∈ name.word, isNameQuote c = false := by
    intro c hc
    by_contra hquote
    have hname := name.isName c hc
    rw [eq_false_of_isNameQuote (p := isNameChar) (by decide) (by simpa using hquote)] at hname
    cases hname
  exact Text.dropWhile_around name.ne_nil (fun c hc => hquotes c (List.mem_append_left _ hc))
    (fun c hc => hword c (List.mem_of_mem_head? hc))
    (fun c hc => hword c (List.mem_of_getLast? hc))
    fun c hc => hquotes c (List.mem_append_right _ hc)

end WrittenName

theorem WrittenName.isBlank (name : WrittenName) : ∀ c ∈ name.text, Text.isBlank c = false :=
  fun c hc => isBlank_of_isPathChar (name.isPathChar c hc)

theorem isPathChar_of_as {word : Text} (h : Text.sameLetters word "AS") :
    ∀ c ∈ word, isPathChar c := by
  intro c hc
  have hname := (isNameChar_of_sameLetters h (by decide)).2 c hc
  exact isPathChar_iff.mpr (.inl (.inl hname))

/-- No word AS with white space around it begins after the first white space of an alias. -/
theorem WrittenAlias.find?_as (other : WrittenAlias) :
    ∃ rest, other.text = other.gap.1 ++ rest ∧
      Text.find? " AS " (rest.map Text.asciiUpperChar) = none := by
  obtain ⟨gap, keyword, name⟩ := other
  cases keyword with
  | none =>
    have hnone := Text.find?_as_append name.isBlank []
    rw [List.append_nil] at hnone
    exact ⟨name.text, rfl, hnone⟩
  | some found =>
    obtain ⟨⟨word, hword⟩, space⟩ := found
    refine ⟨word ++ (space.1 ++ name.text), rfl, ?_⟩
    have hwordBlank : ∀ c ∈ word, Text.isBlank c = false :=
      fun c hc => isBlank_of_isPathChar (isPathChar_of_as hword c hc)
    rw [Text.find?_as_append hwordBlank,
      Text.find?_as_eq_none (List.all_eq_true.mp space.2.2) name.isBlank]
    rfl

theorem Quiet.visibleWithin {before text after : Text} (h : Quiet text)
    (hfirst : ∀ c ∈ text.head?, isPathChar c) (hlast : ∀ c ∈ text.getLast?, isPathChar c)
    (hbefore : Text.allBlank before) (hafter : Text.allBlank after) :
    VisibleWithin (asCode before) (scan text) (asCode after) := by
  have hhidden : ∀ {space : Text}, Text.allBlank space → ∀ mark ∈ asCode space,
      mark.isVisible = false := by
    intro space hspace mark hmark
    obtain ⟨c, hc, rfl⟩ := List.mem_map.mp hmark
    exact Marked.isVisible_of_isBlank (List.all_eq_true.mp hspace c hc)
  have hvisible : ∀ mark ∈ scan text, isPathChar mark.1 → mark.isVisible := by
    intro mark hmark hchar
    simp [Marked.isVisible, h.uncommented mark hmark, isBlank_of_isPathChar hchar]
  rw [← Scan.map_fst_scan text, List.head?_map] at hfirst
  rw [← Scan.map_fst_scan text, List.getLast?_map] at hlast
  refine ⟨hhidden hbefore, fun mark hmark => ?_, fun mark hmark => ?_, hhidden hafter⟩
  · exact hvisible mark (List.mem_of_mem_head? hmark) (hfirst _ (Option.mem_map_of_mem _ hmark))
  · exact hvisible mark (List.mem_of_getLast? hmark) (hlast _ (Option.mem_map_of_mem _ hmark))

namespace WrittenTable

variable (table : WrittenTable)

theorem path_ne_nil : table.path ≠ [] := by
  simp [path, table.name.text_ne_nil]

theorem isPathChar_path : ∀ c ∈ table.path, isPathChar c := by
  intro c hc
  simp only [path, List.mem_append, List.mem_flatMap, List.mem_singleton] at hc
  rcases hc with ⟨qualifier, -, hc | rfl⟩ | hc
  · exact qualifier.isPathChar c hc
  · rfl
  · exact table.name.isPathChar c hc

theorem isBlank_path : ∀ c ∈ table.path, Text.isBlank c = false :=
  fun c hc => isBlank_of_isPathChar (table.isPathChar_path c hc)

theorem ends :
    (∀ c ∈ table.text.head?, QueryLint.isPathChar c) ∧
      ∀ c ∈ table.text.getLast?, QueryLint.isPathChar c := by
  constructor
  · intro c hc
    rw [text, List.head?_append_of_ne_nil _ table.path_ne_nil] at hc
    exact table.isPathChar_path c (List.mem_of_mem_head? hc)
  · obtain ⟨front, name, htext⟩ : ∃ front, ∃ name : WrittenName, table.text = front ++ name.text := by
      obtain ⟨qualifiers, name, other⟩ := table
      cases other with
      | none => exact ⟨_, name, List.append_nil _⟩
      | some other =>
        obtain ⟨gap, keyword, name⟩ := other
        cases keyword with
        | none => exact ⟨_, name, (List.append_assoc _ _ _).symm⟩
        | some found =>
          exact ⟨_ ++ (gap.1 ++ (found.1.1 ++ found.2.1)), name, by simp [text, WrittenAlias.text]; rfl⟩
    intro c hc
    rw [htext, List.getLast?_append_of_ne_nil _ name.text_ne_nil] at hc
    exact name.isPathChar c (List.mem_of_getLast? hc)

theorem withoutQualifier_path : withoutQualifier table.path = table.name.text := by
  rw [withoutQualifier]
  have hdot := table.name.not_mem_dot
  rcases List.eq_nil_or_concat' table.qualifiers with hnil | ⟨init, last, hlast⟩
  · rw [path, hnil, List.flatMap_nil, List.nil_append, Text.findLast?_eq_none hdot]
  · obtain ⟨front, hpath⟩ : ∃ front, table.path = front ++ '.' :: table.name.text :=
      ⟨init.flatMap (fun qualifier => qualifier.text ++ ['.']) ++ last.text, by simp [path, hlast]⟩
    rw [hpath, Text.findLast?_append_cons hdot]
    exact Text.drop_succ List.drop_left

/-- The second name of a table goes away, and so does the white space before it but for what
trimming takes away. -/
theorem withoutAlias_text :
    ∃ blanks, Text.allBlank blanks ∧ withoutAlias table.text = table.path ++ blanks := by
  unfold withoutAlias
  have hblank := table.isBlank_path
  cases hother : table.asName with
  | none =>
    have htext : table.text = table.path ++ [] := by simp [text, hother]
    have hfirst : (Text.fields (table.path ++ [])).headD [] = table.path :=
      Text.headD_fields table.path_ne_nil hblank (by simp)
    refine ⟨[], rfl, ?_⟩
    rw [htext, Text.find?_as_append hblank, hfirst, List.append_nil]
    rfl
  | some other =>
    obtain ⟨rest, hrest, hnone⟩ := other.find?_as
    have htext : table.text = table.path ++ (other.gap.1 ++ rest) := by
      simp [text, hother, hrest]
    have hblanks := List.all_eq_true.mp other.gap.2.2
    have hfirst := Text.headD_fields table.path_ne_nil hblank (other.gap.isBlank_head rest)
    rw [htext, Text.find?_as_append hblank]
    cases hfound : Text.find? " AS " ((other.gap.1 ++ rest).map Text.asciiUpperChar) with
    | none => exact ⟨[], rfl, by simpa using hfirst⟩
    | some position =>
      rw [List.map_append] at hfound
      have hlt := Text.find?_lt_of_append hnone hfound
      rw [List.length_map] at hlt
      refine ⟨other.gap.1.take position, ?_, ?_⟩
      · exact List.all_eq_true.mpr fun c hc => hblanks c (List.mem_of_mem_take hc)
      · rw [Option.map_some]
        simp only
        rw [List.take_length_add_append, List.take_append_of_le_length (by omega)]

theorem text_ne_nil : table.text ≠ [] := by
  simp [text, table.path_ne_nil]

theorem isPathChar_or_isBlank : ∀ c ∈ table.text, QueryLint.isPathChar c ∨ Text.isBlank c := by
  intro c hc
  obtain ⟨qualifiers, name, other⟩ := table
  rcases List.mem_append.mp hc with hpath | hother
  · exact .inl (isPathChar_path _ c hpath)
  cases other with
  | none => cases hother
  | some other =>
    obtain ⟨gap, keyword, second⟩ := other
    have hgap := List.all_eq_true.mp gap.2.2
    rcases List.mem_append.mp hother with hblank | hrest
    · exact .inr (hgap c hblank)
    cases keyword with
    | none => exact .inl (second.isPathChar c hrest)
    | some found =>
      simp only [List.mem_append] at hrest
      rcases hrest with hword | hblank | hname
      · exact .inl (isPathChar_of_as found.1.2 c hword)
      · exact .inr (List.all_eq_true.mp found.2.2.2 c hblank)
      · exact .inl (second.isPathChar c hname)

theorem not_listMark : ∀ mark ∈ scan table.text, mark.isListMark = false := by
  intro mark hmark
  have hc : mark.1 ∈ (scan table.text).map Prod.fst := List.mem_map_of_mem hmark
  rw [Scan.map_fst_scan] at hc
  by_contra hlist
  have hchar := table.isPathChar_or_isBlank mark.1 hc
  rcases Marked.isListMark_iff.mp (by simpa using hlist) with rfl | rfl | rfl <;>
    exact absurd hchar (by decide)

theorem bareName_text : bareName table.text = table.name.word := by
  obtain ⟨hfirst, hlast⟩ := table.ends
  obtain ⟨blanks, hblanks, halias⟩ := table.withoutAlias_text
  have hpathFirst : ∀ c ∈ table.path.head?, QueryLint.isPathChar c :=
    fun c hc => table.isPathChar_path c (List.mem_of_mem_head? hc)
  have hpathLast : ∀ c ∈ table.path.getLast?, QueryLint.isPathChar c :=
    fun c hc => table.isPathChar_path c (List.mem_of_getLast? hc)
  have htrim : Text.trim table.text = table.text :=
    Text.dropWhile_self table.text_ne_nil (fun c hc => isBlank_of_isPathChar (hfirst c hc))
      fun c hc => isBlank_of_isPathChar (hlast c hc)
  have hcut : Text.trim ([] ++ (table.path ++ blanks)) = table.path :=
    Text.dropWhile_around table.path_ne_nil (by simp)
      (fun c hc => isBlank_of_isPathChar (hpathFirst c hc))
      (fun c hc => isBlank_of_isPathChar (hpathLast c hc)) (List.all_eq_true.mp hblanks)
  have hparens : Text.dropWhileEnd (· = ')') (table.path.dropWhile (· = '(')) = table.path :=
    Text.dropWhile_self table.path_ne_nil
      (fun c hc => by simpa using ne_of_isPathChar (hpathFirst c hc) rfl)
      fun c hc => by simpa using ne_of_isPathChar (hpathLast c hc) rfl
  rw [List.nil_append] at hcut
  rw [bareName_eq, htrim, halias, hcut, hparens, table.withoutQualifier_path, table.name.dropQuotes]

end WrittenTable

end QueryLint
