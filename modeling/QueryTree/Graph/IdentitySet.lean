import QueryTree.Graph.Identity

/-!
# QueryTree.Graph.IdentitySet

Sets of objects and of values that are kept once (`IdentitySet`).  Membership goes by
identity, never by content, so two objects that look alike are two members.
-/

namespace QueryTree

/-- A set of things that are told apart by identity. -/
structure IdentitySet where
  /-- The members, each once. -/
  members : List Identity
  /-- Nothing is a member twice. -/
  nodup : members.Nodup

namespace IdentitySet

/-- The set without members. -/
def empty : IdentitySet := ⟨[], .nil⟩

instance : Inhabited IdentitySet := ⟨empty⟩

/-- Whether a thing is a member. -/
def contains (s : IdentitySet) (id : Identity) : Bool := decide (id ∈ s.members)

/-- The number of members. -/
def size (s : IdentitySet) : Nat := s.members.length

/-- The set with one more member. -/
def insert (s : IdentitySet) (id : Identity) : IdentitySet :=
  if h : id ∈ s.members then s else ⟨id :: s.members, List.nodup_cons.mpr ⟨h, s.nodup⟩⟩

/-- The set without a member. -/
def erase (s : IdentitySet) (id : Identity) : IdentitySet :=
  ⟨s.members.erase id, s.nodup.erase id⟩

theorem mem_insert (s : IdentitySet) (id x : Identity) :
    x ∈ (s.insert id).members ↔ x = id ∨ x ∈ s.members := by
  unfold insert
  split
  · exact ⟨.inr, fun h => h.elim (fun e => e ▸ ‹_›) (·)⟩
  · exact List.mem_cons

theorem contains_iff (s : IdentitySet) (id : Identity) :
    s.contains id = true ↔ id ∈ s.members := by
  simp [contains]

end IdentitySet

end QueryTree
