import Modelwright.Format.Record
import Modelwright.Proofs.Format.Entries

namespace Modelwright

/-! Values that are read again as nodes, with the entries of their objects in any order. -/

theorem mapM_eq_some_map {f : α → Option β} {g : α → β} {xs : List α}
    (reads : ∀ x ∈ xs, f x = some (g x)) : xs.mapM f = some (xs.map g) := by
  induction xs with
  | nil => rfl
  | cons x xs ih =>
      obtain ⟨first, rest⟩ := List.forall_mem_cons.mp reads
      rw [List.mapM_cons, first, ih rest]
      rfl

namespace Json

theorem nodes_eq_map (items : List Json) : node.nodes items = items.map node := by
  induction items with
  | nil => rfl
  | cons item items ih => rw [node.nodes, ih, List.map_cons]

def entryNode (entry : String × Json) : Node × Node :=
  (.scalar (.ofText? (some entry.1)), entry.2.node)

theorem entryNodes_eq_map (entries : List (String × Json)) :
    node.entryNodes entries = entries.map entryNode := by
  induction entries with
  | nil => rfl
  | cons entry entries ih => rw [node.entryNodes, ih, List.map_cons, entryNode]

/-- The value with the entries of each object in another order. -/
def arranged (arrange : List (String × Json) → List (String × Json)) : Json → Json
  | .null => .null
  | .bool b => .bool b
  | .number n => .number n
  | .string s => .string s
  | .array items => .array (arrangedItems items)
  | .object entries => .object (arrange (arrangedEntries entries))
where
  arrangedItems : List Json → List Json
    | [] => []
    | item :: items => arranged arrange item :: arrangedItems items
  arrangedEntries : List (String × Json) → List (String × Json)
    | [] => []
    | (key, value) :: entries => (key, arranged arrange value) :: arrangedEntries entries

/-- Entries with keys of their own are put in another order, and nothing else happens to them. -/
def Arranges (arrange : List (String × Json) → List (String × Json)) : Prop :=
  ∀ entries, (entries.map Prod.fst).Nodup → (arrange entries).Perm entries

theorem arranges_id : Arranges id :=
  fun entries _ => .refl entries

theorem arranges_keyOrdered : Arranges keyOrdered :=
  fun _ nodup => keyOrdered_perm nodup

mutual

theorem arranged_id : ∀ value : Json, value.arranged id = value
  | .null => rfl
  | .bool _ => rfl
  | .number _ => rfl
  | .string _ => rfl
  | .array items => congrArg array (arrangedItems_id items)
  | .object entries => congrArg object (arrangedEntries_id entries)

theorem arrangedItems_id : ∀ items : List Json, arranged.arrangedItems id items = items
  | [] => rfl
  | item :: items => by rw [arranged.arrangedItems, arranged_id item, arrangedItems_id items]

theorem arrangedEntries_id : ∀ entries : List (String × Json),
    arranged.arrangedEntries id entries = entries
  | [] => rfl
  | (key, value) :: entries => by
    rw [arranged.arrangedEntries, arranged_id value, arrangedEntries_id entries]

end

/-- A value as it is kept in memory: the entries of each object are in the order of their keys. -/
def isStored : Json → Bool
  | .array items => itemsStored items
  | .object entries => decide (InKeyOrder entries) && entriesStored entries
  | _ => true
where
  itemsStored : List Json → Bool
    | [] => true
    | item :: items => isStored item && itemsStored items
  entriesStored : List (String × Json) → Bool
    | [] => true
    | (_, value) :: entries => isStored value && entriesStored entries

section Arranged

variable {arrange : List (String × Json) → List (String × Json)}

theorem arrangedItems_eq_map (items : List Json) :
    arranged.arrangedItems arrange items = items.map (arranged arrange) := by
  induction items with
  | nil => rfl
  | cons item items ih => rw [arranged.arrangedItems, ih, List.map_cons]

theorem arrangedEntries_eq_map (entries : List (String × Json)) :
    arranged.arrangedEntries arrange entries =
      entries.map fun entry => (entry.1, entry.2.arranged arrange) := by
  induction entries with
  | nil => rfl
  | cons entry entries ih => rw [arranged.arrangedEntries, ih, List.map_cons]

theorem node_arranged_array (items : List Json) :
    ((Json.array items).arranged arrange).node =
      .sequence (items.map fun item => (item.arranged arrange).node) := by
  rw [arranged, arrangedItems_eq_map, node, nodes_eq_map, List.map_map]
  rfl

theorem exists_arranged_object (arranges : Arranges arrange) {entries : List (String × Json)}
    (nodup : (entries.map Prod.fst).Nodup) :
    ∃ placed, (Json.object entries).arranged arrange = .object placed ∧
      placed.Perm (entries.map fun entry => (entry.1, entry.2.arranged arrange)) := by
  refine ⟨_, rfl, ?_⟩
  rw [arrangedEntries_eq_map]
  refine arranges _ ?_
  rwa [List.map_map]

theorem jsonEntries?_entryNodes {entries : List (String × Json)} {read : Json → Json}
    (reads : ∀ entry ∈ entries, entry.2.node.json? = some (read entry.2)) :
    Node.json?.jsonEntries? (node.entryNodes entries) =
      some (entries.map fun entry => (entry.1, read entry.2)) := by
  induction entries with
  | nil => rfl
  | cons entry entries ih =>
      obtain ⟨first, rest⟩ := List.forall_mem_cons.mp reads
      rw [node.entryNodes, Node.json?.jsonEntries?, first, ih rest]
      rfl

mutual

theorem json?_node_arranged (arranges : Arranges arrange) : ∀ value : Json,
    value.isStored = true → (value.arranged arrange).node.json? = some value
  | .null, _ => rfl
  | .bool _, _ => rfl
  | .number _, _ => rfl
  | .string _, _ => rfl
  | .array items, stored => by
    have read := jsonItems?_nodes_arranged arranges items stored
    rw [arranged, node, Node.json?, read]
    rfl
  | .object entries, stored => by
    obtain ⟨ordered, storedEntries⟩ := Bool.and_eq_true_iff.mp stored
    have ordered := of_decide_eq_true ordered
    obtain ⟨placed, written, perm⟩ := exists_arranged_object arranges ordered.nodup
    have each := json?_entry_arranged arranges entries storedEntries
    -- What is read does not depend on the place of an entry.
    let read (value : Json) : Json := value.node.json?.getD .null
    have reads : ∀ entry ∈ placed, entry.2.node.json? = some (read entry.2) := by
      intro entry member
      obtain ⟨source, listed, rfl⟩ := List.mem_map.mp (perm.mem_iff.mp member)
      simp only [read, each source listed, Option.getD_some]
    have back : (placed.map fun entry => (entry.1, read entry.2)).Perm entries := by
      have mapped := perm.map fun entry => (entry.1, read entry.2)
      rw [List.map_map] at mapped
      refine mapped.trans (.of_eq ?_)
      refine (List.map_congr_left fun entry listed => ?_).trans (List.map_id entries)
      simp only [Function.comp_apply, read, each entry listed, Option.getD_some, id]
    rw [written, node, Node.json?, jsonEntries?_entryNodes reads, Option.map_some,
      ofEntries_of_perm back ordered]

theorem jsonItems?_nodes_arranged (arranges : Arranges arrange) : ∀ items : List Json,
    isStored.itemsStored items = true →
      Node.json?.jsonItems? (node.nodes (arranged.arrangedItems arrange items)) = some items
  | [], _ => rfl
  | item :: items, stored => by
    obtain ⟨first, rest⟩ := Bool.and_eq_true_iff.mp stored
    rw [arranged.arrangedItems, node.nodes, Node.json?.jsonItems?,
      json?_node_arranged arranges item first, jsonItems?_nodes_arranged arranges items rest]
    rfl

theorem json?_entry_arranged (arranges : Arranges arrange) : ∀ entries : List (String × Json),
    isStored.entriesStored entries = true →
      ∀ entry ∈ entries, (entry.2.arranged arrange).node.json? = some entry.2
  | [], _ => List.forall_mem_nil _
  | (key, value) :: entries, stored => by
    obtain ⟨first, rest⟩ := Bool.and_eq_true_iff.mp stored
    exact List.forall_mem_cons.mpr ⟨json?_node_arranged arranges value first,
      json?_entry_arranged arranges entries rest⟩

end

theorem arranged_singleton (arranges : Arranges arrange) (key : String) (value : Json) :
    (Json.object [(key, value)]).arranged arrange = .object [(key, value.arranged arrange)] := by
  have nodup : ([(key, value)].map Prod.fst).Nodup := List.nodup_singleton key
  obtain ⟨placed, written, perm⟩ := exists_arranged_object arranges nodup
  rw [written, List.perm_singleton.mp perm]

def entries : Json → List (String × Json)
  | .object entries => entries
  | _ => []

def recordOf (entries : List (String × Json)) : Record :=
  entries.map fun entry => (entry.1, entry.2.node)

theorem knownEntries?_entryNodes {names : List String} {entries : List (String × Json)}
    (known : ∀ key ∈ entries.map Prod.fst, key ∈ names)
    (nodup : (entries.map Prod.fst).Nodup) :
    Node.knownEntries? names (entries.map entryNode) = some (recordOf entries) := by
  have named : (entries.map entryNode).mapM (fun entry => do return (← entry.1.text?, entry.2)) =
      some (recordOf entries) := by
    rw [List.mapM_map]
    exact mapM_eq_some_map fun _ _ => rfl
  have kept : (recordOf entries).filter (fun entry => names.contains entry.1) =
      recordOf entries := by
    refine List.filter_eq_self.mpr fun entry listed => ?_
    obtain ⟨source, member, rfl⟩ := List.mem_map.mp listed
    exact List.contains_iff_mem.mpr (known _ (List.mem_map_of_mem member))
  have apart : ((recordOf entries).map (·.1)).Nodup := by
    rwa [recordOf, List.map_map]
  rw [Node.knownEntries?, named]
  simp only [Option.bind_eq_bind, Option.bind_some]
  rw [kept, if_pos apart]

theorem record?_object (dialect : Dialect) {names : List String} {entries : List (String × Json)}
    (known : ∀ key ∈ entries.map Prod.fst, key ∈ names)
    (nodup : (entries.map Prod.fst).Nodup) :
    (Json.object entries).node.record? dialect names = some (recordOf entries) := by
  rw [node, entryNodes_eq_map]
  exact knownEntries?_entryNodes known nodup

theorem list?_node_arranged {values : List α} {write : α → Json} {read : Node → Option α}
    (reads : ∀ value ∈ values, read ((write value).arranged arrange).node = some value) :
    Node.list? read ((Json.array (values.map write)).arranged arrange).node = some values := by
  rw [node_arranged_array, List.map_map]
  show (values.map _).mapM read = some values
  rw [List.mapM_map]
  exact (mapM_eq_some_map reads).trans (congrArg some (List.map_id' values))

end Arranged

end Json

/-- Each place of the record has the entry of its name. -/
def Record.Holds (arrange : List (String × Json) → List (String × Json)) (record : Record)
    (entries : List (String × Json)) : Prop :=
  ∀ name, record.lookup name =
    (entries.lookup name).map fun value => (value.arranged arrange).node

section Places

variable {arrange : List (String × Json) → List (String × Json)}
  {entries : List (String × Json)}

theorem keys_perm {placed : List (String × Json)}
    (perm : placed.Perm (entries.map fun entry => (entry.1, entry.2.arranged arrange))) :
    (placed.map Prod.fst).Perm (entries.map Prod.fst) := by
  have mapped := perm.map Prod.fst
  rwa [List.map_map] at mapped

theorem holds_of_perm {placed : List (String × Json)}
    (perm : placed.Perm (entries.map fun entry => (entry.1, entry.2.arranged arrange)))
    (nodup : (entries.map Prod.fst).Nodup) : (Json.recordOf placed).Holds arrange entries := by
  intro name
  rw [Json.recordOf, Arrangement.lookup_map_snd,
    Arrangement.lookup_of_perm perm ((keys_perm perm).nodup_iff.mpr nodup),
    Arrangement.lookup_map_snd, Option.map_map]
  rfl

theorem exists_holds (arranges : Json.Arranges arrange) (dialect : Dialect) {value : Json}
    (keyed : value = .object value.entries) {places : List String}
    (within : (value.entries.map Prod.fst).Sublist places) (apart : places.Nodup) :
    ∃ record, (value.arranged arrange).node.record? dialect places = some record ∧
      record.Holds arrange value.entries := by
  have nodup : (value.entries.map Prod.fst).Nodup := apart.sublist within
  obtain ⟨placed, written, perm⟩ := Json.exists_arranged_object arranges nodup
  have keys := keys_perm perm
  refine ⟨Json.recordOf placed, ?_, holds_of_perm perm nodup⟩
  rw [keyed, written]
  exact Json.record?_object dialect (fun key listed => within.subset (keys.mem_iff.mp listed))
    (keys.nodup_iff.mpr nodup)

namespace Record.Holds

variable {record : Record} {name : String} {read : Node → Option α}

theorem required (holds : record.Holds arrange entries) (value : Json)
    (listed : entries.lookup name = some value) :
    record.required name read = read (value.arranged arrange).node := by
  rw [Record.required, holds, listed, Option.map_some, Option.bind_some]

theorem withDefault (holds : record.Holds arrange entries) (value : Json)
    (listed : entries.lookup name = some value) (fallback : α) :
    record.withDefault name fallback read = read (value.arranged arrange).node := by
  rw [Record.withDefault, holds, listed, Option.map_some]

theorem withDefault_of_absent (holds : record.Holds arrange entries)
    (absent : entries.lookup name = none) (fallback : α) :
    record.withDefault name fallback read = some fallback := by
  rw [Record.withDefault, holds, absent, Option.map_none]

theorem optional (holds : record.Holds arrange entries) {value : Option α} (write : α → Json)
    (listed : entries.lookup name = value.map write)
    (present : ∀ a, ((write a).arranged arrange).node.missing? = some false)
    (reads : ∀ a, value = some a → read ((write a).arranged arrange).node = some a) :
    record.optional name read = some value := by
  rw [Record.optional, holds, listed]
  cases value with
  | none => rfl
  | some a =>
      simp only [Option.map_some, present a, reads a rfl]
      rfl

theorem text (holds : record.Holds arrange entries) {value : Option String}
    (listed : entries.lookup name = value.map .string) :
    record.optional name Node.text? = some value :=
  holds.optional .string listed (fun _ => rfl) fun _ _ => rfl

theorem flag (holds : record.Holds arrange entries) {flag : Bool}
    (listed : entries.lookup name = if flag then some (.bool true) else none) :
    record.withDefault name false Node.bool? = some flag := by
  cases flag with
  | false => exact holds.withDefault_of_absent listed false
  | true => exact holds.withDefault _ listed false

theorem list (holds : record.Holds arrange entries) {values : List α} (write : α → Json)
    (listed : entries.lookup name =
      if values.isEmpty then none else some (.array (values.map write)))
    (reads : ∀ value ∈ values, read ((write value).arranged arrange).node = some value) :
    record.withDefault name [] (Node.list? read) = some values := by
  cases values with
  | nil => exact holds.withDefault_of_absent listed []
  | cons value values =>
      exact (holds.withDefault _ listed []).trans (Json.list?_node_arranged reads)

end Record.Holds

end Places

end Modelwright
