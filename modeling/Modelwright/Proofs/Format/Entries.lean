import Modelwright.Format.Json.Value
import Modelwright.Proofs.Arrangement

namespace Modelwright.Json

/-- The keys ascend, so none is repeated. -/
def InKeyOrder (entries : List (String × Json)) : Prop :=
  (entries.map Prod.fst).Pairwise (· < ·)

instance (entries : List (String × Json)) : Decidable (InKeyOrder entries) :=
  inferInstanceAs (Decidable (List.Pairwise _ _))

section Entries

variable {entries kept : List (String × Json)} {key : String} {value : Json}

theorem InKeyOrder.nodup (ordered : InKeyOrder entries) : (entries.map Prod.fst).Nodup :=
  List.Pairwise.imp String.ne_of_lt ordered

theorem InKeyOrder.eq_of_perm (ordered : InKeyOrder entries) (other : InKeyOrder kept)
    (perm : entries.Perm kept) : entries = kept := by
  have antisymm : ∀ first second : String × Json, first ∈ entries → second ∈ kept →
      first.1 < second.1 → second.1 < first.1 → first = second :=
    fun _ _ _ _ below above => absurd above (String.lt_asymm below)
  exact List.Perm.eq_of_pairwise antisymm (List.pairwise_map.mp ordered)
    (List.pairwise_map.mp other) perm

theorem mem_keys_of_insertEntry {other : String}
    (member : other ∈ (insertEntry key value entries).map Prod.fst) :
    other = key ∨ other ∈ entries.map Prod.fst := by
  induction entries with
  | nil => exact .inl (List.mem_singleton.mp member)
  | cons entry rest ih =>
      rw [insertEntry] at member
      split at member
      · exact List.mem_cons.mp member
      · split at member
        · exact (List.mem_cons.mp member).imp id (List.mem_cons_of_mem _)
        · rcases List.mem_cons.mp member with rfl | member
          · exact .inr List.mem_cons_self
          · exact (ih member).imp id (List.mem_cons_of_mem _)

theorem InKeyOrder.inserted (ordered : InKeyOrder entries) (key : String) (value : Json) :
    InKeyOrder (insertEntry key value entries) := by
  induction entries with
  | nil => exact List.pairwise_singleton _ _
  | cons entry rest ih =>
      obtain ⟨below, behind⟩ := List.pairwise_cons.mp ordered
      rw [insertEntry]
      split
      · next above =>
          refine List.pairwise_cons.mpr ⟨List.forall_mem_cons.mpr ⟨above, ?_⟩, ordered⟩
          exact fun other member => String.lt_trans above (below other member)
      · next early =>
          split
          · next same =>
              exact List.pairwise_cons.mpr ⟨same ▸ below, behind⟩
          · next apart =>
              refine List.pairwise_cons.mpr ⟨fun other member => ?_, ih behind⟩
              rcases mem_keys_of_insertEntry member with rfl | member
              · exact Std.lt_of_le_of_ne (String.not_lt.mp early) (Ne.symm apart)
              · exact below other member

theorem insertEntry_perm (fresh : key ∉ entries.map Prod.fst) :
    (insertEntry key value entries).Perm ((key, value) :: entries) := by
  induction entries with
  | nil => exact .refl _
  | cons entry rest ih =>
      obtain ⟨apart, fresh⟩ := not_or.mp (mt List.mem_cons.mpr fresh)
      rw [insertEntry, if_neg apart]
      split
      · exact .refl _
      · exact ((ih fresh).cons entry).trans (.swap _ _ _)

theorem InKeyOrder.folded (ordered : InKeyOrder kept) (entries : List (String × Json)) :
    InKeyOrder (entries.foldl (fun kept entry => insertEntry entry.1 entry.2 kept) kept) := by
  induction entries generalizing kept with
  | nil => exact ordered
  | cons entry rest ih => exact ih (ordered.inserted entry.1 entry.2)

theorem foldl_insertEntry_perm (nodup : ((entries ++ kept).map Prod.fst).Nodup) :
    (entries.foldl (fun kept entry => insertEntry entry.1 entry.2 kept) kept).Perm
      (entries ++ kept) := by
  induction entries generalizing kept with
  | nil => exact .refl _
  | cons entry rest ih =>
      rw [List.cons_append, List.map_cons] at nodup
      obtain ⟨fresh, nodup⟩ := List.nodup_cons.mp nodup
      have inserted : (insertEntry entry.1 entry.2 kept).Perm (entry :: kept) :=
        insertEntry_perm fun member => fresh <| by
          rw [List.map_append]
          exact List.mem_append_right _ member
      have moved : (rest ++ insertEntry entry.1 entry.2 kept).Perm (entry :: (rest ++ kept)) :=
        (inserted.append_left rest).trans List.perm_middle
      refine (ih ?_).trans moved
      exact (moved.map Prod.fst).nodup_iff.mpr (List.nodup_cons.mpr ⟨fresh, nodup⟩)

def keyOrdered (entries : List (String × Json)) : List (String × Json) :=
  entries.foldl (fun kept entry => insertEntry entry.1 entry.2 kept) []

theorem keyOrdered_perm (nodup : (entries.map Prod.fst).Nodup) :
    (keyOrdered entries).Perm entries := by
  have perm : (keyOrdered entries).Perm (entries ++ []) :=
    foldl_insertEntry_perm (by rwa [List.append_nil])
  rwa [List.append_nil] at perm

theorem inKeyOrder_keyOrdered (entries : List (String × Json)) :
    InKeyOrder (keyOrdered entries) := by
  have empty : InKeyOrder [] := List.Pairwise.nil
  exact empty.folded entries

theorem ofEntries_of_perm (perm : entries.Perm kept) (ordered : InKeyOrder kept) :
    ofEntries entries = .object kept := by
  have nodup : (entries.map Prod.fst).Nodup := (perm.map Prod.fst).nodup_iff.mpr ordered.nodup
  refine congrArg Json.object ?_
  exact (inKeyOrder_keyOrdered entries).eq_of_perm ordered ((keyOrdered_perm nodup).trans perm)

end Entries

end Modelwright.Json
