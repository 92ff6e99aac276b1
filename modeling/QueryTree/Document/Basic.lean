import QueryTree.Decimal.Notation

/-!
# QueryTree.Document.Basic

Plain documents: what both written formats, JSON and YAML, can carry.  A mapping
keeps its entries in order.

* `depth` — how many collections stand around the innermost one, itself included;
* `isEmpty` — what a document that leaves out empty things leaves out.
-/

namespace QueryTree

/-- A plain document. -/
inductive Document where
  /-- Nothing. -/
  | null
  /-- A truth value. -/
  | bool (b : Bool)
  /-- A whole number of any size. -/
  | int (n : Int)
  /-- A floating-point number. -/
  | float (x : Float)
  /-- A text. -/
  | text (s : String)
  /-- A sequence. -/
  | list (items : List Document)
  /-- A mapping, in the order of its entries. -/
  | map (entries : List (String × Document))
deriving Inhabited

namespace Document

mutual

/-- The nesting of a document: one for every sequence or mapping on the longest way down. -/
def depth : Document → Nat
  | .list items => 1 + depthOfItems items
  | .map entries => 1 + depthOfEntries entries
  | _ => 0

/-- The nesting of the deepest of several documents. -/
def depthOfItems : List Document → Nat
  | [] => 0
  | d :: ds => max (depth d) (depthOfItems ds)

/-- The nesting of the deepest value of a mapping. -/
def depthOfEntries : List (String × Document) → Nat
  | [] => 0
  | (_, d) :: es => max (depth d) (depthOfEntries es)

end

/-- Whether a document counts as empty: nothing, false, zero, and every text, sequence or mapping without
content. -/
def isEmpty : Document → Bool
  | .null => true
  | .bool b => !b
  | .int n => n == 0
  | .float x => x == 0
  | .text s => s.isEmpty
  | .list items => items.isEmpty
  | .map entries => entries.isEmpty

/-- The value of a key: of several entries with it, the last. -/
def lookup? (key : String) : List (String × Document) → Option Document
  | [] => none
  | (k, d) :: es =>
    match lookup? key es with
    | some d' => some d'
    | none => if k = key then some d else none

/-- The value of a key is one of the values of the mapping. -/
theorem exists_mem_of_lookup?_eq_some {key : String} {d : Document} :
    ∀ {es : List (String × Document)}, lookup? key es = some d → ∃ k, (k, d) ∈ es
  | (k, d') :: es, h => by
    rw [lookup?] at h
    split at h
    · rename_i found
      obtain ⟨k', mem⟩ := exists_mem_of_lookup?_eq_some (found.trans (by simpa using h))
      exact ⟨k', List.mem_cons_of_mem _ mem⟩
    · split at h
      · exact ⟨k, by simp_all⟩
      · cases h

/-- The value of a key is smaller than the mapping. -/
theorem sizeOf_lt_of_lookup?_eq_some {key : String} {d : Document} {es : List (String × Document)}
    (h : lookup? key es = some d) : sizeOf d < sizeOf es := by
  obtain ⟨k, mem⟩ := exists_mem_of_lookup?_eq_some h
  have := List.sizeOf_lt_of_mem mem
  simp only [Prod.mk.sizeOf_spec] at this
  omega

end Document

end QueryTree
