import Mathlib.Data.List.Basic
import QueryLint.Sql.Tree

/-!
Columns that a SELECT without FROM reads. A column counts where operators and parentheses alone
lead to it from an item of the list, and so does a wildcard. A column inside anything else, such as
the argument of a function, a CASE or a CAST, is not looked for.
-/

namespace QueryLint.Sql

variable {Node : Type}

namespace Expr

def isColumn : Expr Node → Bool
  | identifier _ => true
  | compoundIdentifier _ => true
  | _ => false

/-- The operands of an expression that is an operator with its operands or is in parentheses. -/
def operands : Expr Node → List (Expr Node)
  | binaryOp left _ right => [left, right]
  | unaryOp _ operand => [operand]
  | nested inner => [inner]
  | _ => []

def parts : Expr Node → List (Expr Node)
  | identifier _ => []
  | compoundIdentifier _ => []
  | binaryOp left _ right => [left, right]
  | unaryOp _ operand => [operand]
  | nested inner => [inner]
  | other _ parts => parts

/-- An expression that is a column, or leads to one by steps into the expressions that `inside`
gives. -/
inductive Reads (inside : Expr Node → List (Expr Node)) : Expr Node → Prop
  | column {expr : Expr Node} (isColumn : expr.isColumn) : Reads inside expr
  | step {expr inner : Expr Node} (mem : inner ∈ inside expr) (reads : Reads inside inner) :
      Reads inside expr

variable {inside wider : Expr Node → List (Expr Node)}

theorem not_reads {expr : Expr Node} (hcolumn : expr.isColumn = false)
    (h : ∀ inner ∈ inside expr, ¬inner.Reads inside) : ¬expr.Reads inside := by
  rintro (hisColumn | ⟨hmem, hreads⟩)
  · simp [hcolumn] at hisColumn
  · exact h _ hmem hreads

theorem Reads.mono (h : ∀ expr, inside expr ⊆ wider expr) {expr : Expr Node}
    (hreads : expr.Reads inside) : expr.Reads wider := by
  induction hreads with
  | column hcolumn => exact .column hcolumn
  | step hmem _ ih => exact .step (h _ hmem) ih

theorem operands_subset_parts (expr : Expr Node) : expr.operands ⊆ expr.parts := by
  cases expr <;> simp [operands, parts]

theorem readsColumn_eq (expr : Expr Node) :
    expr.readsColumn = (expr.isColumn || expr.operands.any readsColumn) := by
  cases expr <;> simp [readsColumn, isColumn, operands]

theorem readsColumn_iff (expr : Expr Node) : expr.readsColumn ↔ expr.Reads operands := by
  constructor
  · intro h
    fun_induction readsColumn expr with
    | case1 name => exact .column rfl
    | case2 parts => exact .column rfl
    | case3 left operator right ihleft ihright =>
      rcases Bool.or_eq_true_iff.mp h with h | h
      · exact .step (by simp [operands]) (ihleft h)
      · exact .step (by simp [operands]) (ihright h)
    | case4 operator operand ih => exact .step (by simp [operands]) (ih h)
    | case5 inner ih => exact .step (by simp [operands]) (ih h)
    | case6 => cases h
  · intro h
    induction h with
    | column hcolumn => rw [readsColumn_eq, hcolumn, Bool.true_or]
    | step hmem _ ih =>
      rw [readsColumn_eq, List.any_eq_true.mpr ⟨_, hmem, ih⟩, Bool.or_true]

end Expr

namespace SelectItem

def Reads (inside : Expr Node → List (Expr Node)) : SelectItem Node → Prop
  | unnamed expr => expr.Reads inside
  | named expr _ => expr.Reads inside
  | other _ => True

theorem Reads.mono {inside wider : Expr Node → List (Expr Node)}
    (h : ∀ expr, inside expr ⊆ wider expr) {item : SelectItem Node} (hreads : item.Reads inside) :
    item.Reads wider := by
  cases item with
  | unnamed expr => exact Expr.Reads.mono h hreads
  | named expr label => exact Expr.Reads.mono h hreads
  | other node => trivial

theorem readsColumn_iff (item : SelectItem Node) : item.readsColumn ↔ item.Reads Expr.operands := by
  cases item with
  | unnamed expr => exact expr.readsColumn_iff
  | named expr label => exact expr.readsColumn_iff
  | other node => simp [readsColumn, Reads]

end SelectItem

/-- A SELECT, by its list and its sources, that set operators and parentheses lead to from the
body of a query. -/
inductive QueryBody.Reaches (items : List (SelectItem Node)) (sources : List Node) :
    QueryBody Node → Prop
  | select : Reaches items sources (.select items sources)
  | left {operator : Node} {left right : QueryBody Node} (reaches : Reaches items sources left) :
      Reaches items sources (.combine operator left right)
  | right {operator : Node} {left right : QueryBody Node} (reaches : Reaches items sources right) :
      Reaches items sources (.combine operator left right)
  | nested {query : QueryBody Node} (reaches : Reaches items sources query) :
      Reaches items sources (.nested query)

theorem QueryBody.exists_of_lacksFrom {body : QueryBody Node} (h : body.lacksFrom) :
    ∃ items, body.Reaches items [] ∧ ∃ item ∈ items, item.readsColumn := by
  induction body with
  | select items sources =>
    rw [lacksFrom, Bool.and_eq_true, List.isEmpty_iff] at h
    obtain ⟨rfl, hitems⟩ := h
    exact ⟨items, .select, List.any_eq_true.mp hitems⟩
  | combine operator left right ihleft ihright =>
    rw [lacksFrom, Bool.or_eq_true] at h
    rcases h with h | h
    · obtain ⟨items, hreaches, hitem⟩ := ihleft h
      exact ⟨items, .left hreaches, hitem⟩
    · obtain ⟨items, hreaches, hitem⟩ := ihright h
      exact ⟨items, .right hreaches, hitem⟩
  | nested query ih =>
    obtain ⟨items, hreaches, hitem⟩ := ih h
    exact ⟨items, .nested hreaches, hitem⟩
  | other node => cases h

theorem QueryBody.Reaches.lacksFrom {items : List (SelectItem Node)} {body : QueryBody Node}
    (h : body.Reaches items []) (hitems : ∃ item ∈ items, item.readsColumn) : body.lacksFrom := by
  induction h with
  | select => simpa [QueryBody.lacksFrom] using hitems
  | left _ ih => simp [QueryBody.lacksFrom, ih]
  | right _ ih => simp [QueryBody.lacksFrom, ih]
  | nested _ ih => exact ih

/-- A SELECT without FROM is reported when an item of its list is a wildcard, or leads to a column
through operators and parentheses alone. So nothing is reported when no item is a wildcard and none
leads to a column in any way. -/
theorem Command.lacksFrom_iff_reads (command : Command Node) :
    (command.lacksFrom ↔ ∃ body items, command = .query body ∧ body.Reaches items [] ∧
      ∃ item ∈ items, item.Reads Expr.operands) ∧
    ((∀ body items, command = .query body → body.Reaches items [] →
      ∀ item ∈ items, ¬item.Reads Expr.parts) → command.lacksFrom = false) := by
  have hiff : command.lacksFrom ↔ ∃ body items, command = .query body ∧
      body.Reaches items [] ∧ ∃ item ∈ items, item.Reads Expr.operands := by
    simp only [← SelectItem.readsColumn_iff]
    constructor
    · intro h
      cases command with
      | query body =>
        obtain ⟨items, hreaches, hitem⟩ := QueryBody.exists_of_lacksFrom h
        exact ⟨body, items, rfl, hreaches, hitem⟩
      | other node => cases h
    · rintro ⟨body, items, rfl, hreaches, hitem⟩
      exact hreaches.lacksFrom hitem
  refine ⟨hiff, fun hnone => Bool.eq_false_iff.mpr fun h => ?_⟩
  obtain ⟨body, items, hbody, hreaches, item, hmem, hreads⟩ := hiff.mp h
  exact hnone body items hbody hreaches item hmem (hreads.mono Expr.operands_subset_parts)

/-- The tree of `SELECT UPPER(CAST('a' AS TEXT)) UNION (SELECT a FROM t)`: a literal inside a call
and a cast, beside a SELECT with FROM that reads a column. -/
theorem Command.lacksFrom_iff_reads_literal :
    let cast : Expr String := .other "CAST" [.other "'a'" []]
    let command : Command String := .query (.combine "UNION"
      (.select [.unnamed (.other "UPPER" [cast])] [])
      (.nested (.select [.unnamed (.identifier "a")] ["t"])))
    (∀ body items, command = .query body → body.Reaches items [] →
      ∀ item ∈ items, ¬item.Reads Expr.parts) ∧ command.lacksFrom = false := by
  intro cast command
  have hliteral : ¬(Expr.other "'a'" []).Reads Expr.parts :=
    Expr.not_reads rfl (by simp [Expr.parts])
  have hcast : ¬cast.Reads Expr.parts := Expr.not_reads rfl (by simpa [cast, Expr.parts])
  have hcall : ¬(Expr.other "UPPER" [cast]).Reads Expr.parts :=
    Expr.not_reads rfl (by simpa [Expr.parts])
  have hnone : ∀ body items, command = .query body → body.Reaches items [] →
      ∀ item ∈ items, ¬item.Reads Expr.parts := by
    intro body items hbody hreaches
    obtain rfl := Command.query.inj hbody
    cases hreaches with
    | left hreaches =>
      cases hreaches
      intro item hitem
      obtain rfl := List.mem_singleton.mp hitem
      exact hcall
    | right hreaches =>
      cases hreaches with
      | nested hreaches => cases hreaches
  exact ⟨hnone, (Command.lacksFrom_iff_reads command).2 hnone⟩

/-- A column that is the argument of a function is missed, although the SELECT has no FROM. The tree
is that of `SELECT UPPER(a)`. -/
theorem not_forall_lacksFrom_of_reads :
    ¬∀ (Node : Type) (body : QueryBody Node) (items : List (SelectItem Node)),
      body.Reaches items [] → (∃ item ∈ items, item.Reads Expr.parts) →
        (Command.query body).lacksFrom := by
  intro h
  have hlacks := h String (.select [.unnamed (.other "UPPER" [.identifier "a"])] []) _ .select
    ⟨_, List.mem_cons_self, .step List.mem_cons_self (.column rfl)⟩
  cases hlacks

end QueryLint.Sql
