import Mathlib.Logic.Function.Basic
import Mathlib.Data.List.Perm.Basic
import Mathlib.Data.List.Nodup
import Mathlib.Data.Nat.Bitwise
import Mathlib.Data.Nat.Log

/-! Chained hash maps in the manner of the Open vSwitch `hmap`: a node sits in the
chain of bucket `hash AND mask`, insertion puts it at the head of that chain, and
when the map has grown past its mask every node is moved, in iteration order, to
the head of its chain under the next mask. -/

/-- How the mask follows the number of nodes: a larger map never drops a mask bit. -/
structure HmapGrowth where
  calcMask : Nat → Nat
  nested : ∀ {small large}, small ≤ large → calcMask small &&& calcMask large = calcMask small

/-- `calc_mask` of Open vSwitch: all ones, and at least four buckets once there are two. -/
def ovsMaskBits (capacity : Nat) : Nat :=
  if capacity < 2 then 0 else if capacity < 8 then 2 else Nat.log2 capacity

theorem ovsMaskBits_mono {small large : Nat} (ordered : small ≤ large) :
    ovsMaskBits small ≤ ovsMaskBits large := by
  have logMono : Nat.log2 small ≤ Nat.log2 large := by
    rw [Nat.log2_eq_log_two, Nat.log2_eq_log_two]
    exact Nat.log_mono_right ordered
  have big : 8 ≤ large → 2 ≤ Nat.log2 large := by
    intro bound
    rw [Nat.log2_eq_log_two]
    exact (show 2 = Nat.log 2 4 by decide) ▸ Nat.log_mono_right (by omega)
  simp only [ovsMaskBits]
  split_ifs <;> omega

def ovsGrowth : HmapGrowth where
  calcMask := fun capacity => 2 ^ ovsMaskBits capacity - 1
  nested := by
    intro small large ordered
    have bound := Nat.pow_le_pow_right (show 0 < 2 by omega) (ovsMaskBits_mono ordered)
    have positive : 0 < 2 ^ ovsMaskBits small := Nat.two_pow_pos _
    rw [Nat.and_two_pow_sub_one_eq_mod]
    exact Nat.mod_eq_of_lt (by omega)

/-- A node placed anywhere but in the bucket of its hash cannot be built. -/
structure Hmap (α : Type) where
  mask : Nat
  chain : Nat → List (Nat × α)
  placed : ∀ bucket, ∀ node ∈ chain bucket, node.1 &&& mask = bucket

namespace Hmap

variable {α β : Type}

def empty (mask : Nat) : Hmap α where
  mask := mask
  chain := fun _ => []
  placed := by simp

/-- The nodes in the order of `HMAP_FOR_EACH`: bucket by bucket, each chain from its head. -/
def nodes (m : Hmap α) : List (Nat × α) :=
  (List.range (m.mask + 1)).flatMap m.chain

def count (m : Hmap α) : Nat := m.nodes.length

def values (m : Hmap α) : List α := m.nodes.map Prod.snd

def insertFast (m : Hmap α) (hash : Nat) (value : α) : Hmap α where
  mask := m.mask
  chain := Function.update m.chain (hash &&& m.mask) ((hash, value) :: m.chain (hash &&& m.mask))
  placed := by
    intro bucket node member
    by_cases here : bucket = hash &&& m.mask
    · subst here
      rw [Function.update_self] at member
      rcases List.mem_cons.mp member with same | old
      · rw [same]
      · exact m.placed _ node old
    · rw [Function.update_of_ne here] at member
      exact m.placed bucket node member

def resize (m : Hmap α) (mask : Nat) : Hmap α :=
  m.nodes.foldl (fun moved node => moved.insertFast node.1 node.2) (empty mask)

def expand (growth : HmapGrowth) (m : Hmap α) : Hmap α :=
  if m.mask < growth.calcMask m.count then m.resize (growth.calcMask m.count) else m

def insert (growth : HmapGrowth) (m : Hmap α) (hash : Nat) (value : α) : Hmap α :=
  let grown := m.insertFast hash value
  if grown.mask < grown.count / 2 then grown.expand growth else grown

def remove [DecidableEq α] (m : Hmap α) (hash : Nat) (value : α) : Hmap α where
  mask := m.mask
  chain := Function.update m.chain (hash &&& m.mask)
    ((m.chain (hash &&& m.mask)).erase (hash, value))
  placed := by
    intro bucket node member
    by_cases here : bucket = hash &&& m.mask
    · subst here
      rw [Function.update_self] at member
      exact m.placed _ node (List.mem_of_mem_erase member)
    · rw [Function.update_of_ne here] at member
      exact m.placed bucket node member

def clear (m : Hmap α) : Hmap α := empty m.mask

def modify (m : Hmap α) (update : α → α) : Hmap α where
  mask := m.mask
  chain := fun bucket => (m.chain bucket).map fun node => (node.1, update node.2)
  placed := by
    intro bucket node member
    obtain ⟨old, oldMember, same⟩ := List.mem_map.mp member
    rw [← same]
    exact m.placed bucket old oldMember

def inBucket (m : Hmap α) (hash : Nat) : List α :=
  (m.chain (hash &&& m.mask)).map Prod.snd

def withHash (m : Hmap α) (hash : Nat) : List α :=
  ((m.chain (hash &&& m.mask)).filter fun node => node.1 = hash).map Prod.snd

def firstInBucket (m : Hmap α) (hash : Nat) : Option α := (m.inBucket hash).head?

def firstWithHash (m : Hmap α) (hash : Nat) : Option α := (m.withHash hash).head?

@[simp] theorem mask_insertFast (m : Hmap α) (hash : Nat) (value : α) :
    (m.insertFast hash value).mask = m.mask := rfl

@[simp] theorem mask_remove [DecidableEq α] (m : Hmap α) (hash : Nat) (value : α) :
    (m.remove hash value).mask = m.mask := rfl

@[simp] theorem mask_modify (m : Hmap α) (update : α → α) : (m.modify update).mask = m.mask := rfl

theorem chain_insertFast (m : Hmap α) (hash : Nat) (value : α) (bucket : Nat) :
    (m.insertFast hash value).chain bucket =
      if hash &&& m.mask = bucket then (hash, value) :: m.chain bucket else m.chain bucket := by
  by_cases here : hash &&& m.mask = bucket
  · subst here
    simp [insertFast]
  · simp [insertFast, Function.update_of_ne (Ne.symm here), here]

theorem mem_nodes {m : Hmap α} {node : Nat × α} :
    node ∈ m.nodes ↔ node ∈ m.chain (node.1 &&& m.mask) := by
  simp only [nodes, List.mem_flatMap, List.mem_range]
  constructor
  · rintro ⟨bucket, _, member⟩
    rwa [m.placed bucket node member]
  · intro member
    have bound : node.1 &&& m.mask ≤ m.mask := Nat.and_le_right
    exact ⟨_, by omega, member⟩

theorem mem_values {m : Hmap α} {value : α} :
    value ∈ m.values ↔ ∃ hash, (hash, value) ∈ m.nodes := by
  simp [values]

@[simp] theorem nodes_empty (mask : Nat) : (empty mask : Hmap α).nodes = [] := by
  simp [nodes, empty]

@[simp] theorem nodes_clear (m : Hmap α) : m.clear.nodes = [] := nodes_empty m.mask

theorem flatMap_update_perm (chain : Nat → List β) (bound bucket : Nat) (next extra : List β)
    (inside : bucket < bound) (changed : (next ++ extra).Perm (chain bucket)) :
    ((List.range bound).flatMap (Function.update chain bucket next) ++ extra).Perm
      ((List.range bound).flatMap chain) := by
  induction bound with
  | zero => omega
  | succ bound ih =>
      simp only [List.range_succ, List.flatMap_append, List.flatMap_singleton]
      by_cases last : bucket = bound
      · subst last
        rw [Function.update_self]
        have untouched : (List.range bucket).flatMap (Function.update chain bucket next) =
            (List.range bucket).flatMap chain := by
          apply List.flatMap_congr
          intro index member
          rw [Function.update_of_ne (by rintro rfl; simp at member)]
        rw [untouched, List.append_assoc]
        exact List.Perm.append_left _ changed
      · rw [Function.update_of_ne (Ne.symm last)]
        have moved : (List.flatMap (Function.update chain bucket next) (List.range bound) ++
            chain bound ++ extra).Perm
            (List.flatMap (Function.update chain bucket next) (List.range bound) ++ extra ++
              chain bound) := by
          rw [List.append_assoc, List.append_assoc]
          exact List.Perm.append_left _ List.perm_append_comm
        exact moved.trans (List.Perm.append_right _ (ih (by omega)))

theorem nodes_insertFast_perm (m : Hmap α) (hash : Nat) (value : α) :
    (m.insertFast hash value).nodes.Perm ((hash, value) :: m.nodes) := by
  have bound : hash &&& m.mask < m.mask + 1 := Nat.lt_succ_of_le Nat.and_le_right
  have restored := flatMap_update_perm (m.insertFast hash value).chain (m.mask + 1)
    (hash &&& m.mask) (m.chain (hash &&& m.mask)) [(hash, value)] bound (by
      rw [chain_insertFast, if_pos rfl]
      exact List.perm_append_comm)
  have same : Function.update (m.insertFast hash value).chain (hash &&& m.mask)
      (m.chain (hash &&& m.mask)) = m.chain := by
    simp [insertFast]
  rw [same] at restored
  exact restored.symm.trans List.perm_append_comm

theorem nodes_foldl_insertFast_perm (added : List (Nat × α)) (m : Hmap α) :
    (added.foldl (fun moved node => moved.insertFast node.1 node.2) m).nodes.Perm
      (added ++ m.nodes) := by
  induction added generalizing m with
  | nil => exact List.Perm.refl _
  | cons node rest ih =>
      have step := (ih (m.insertFast node.1 node.2)).trans
        (List.Perm.append_left rest (nodes_insertFast_perm m node.1 node.2))
      exact step.trans List.perm_middle

theorem nodes_resize_perm (m : Hmap α) (mask : Nat) : (m.resize mask).nodes.Perm m.nodes := by
  have moved := nodes_foldl_insertFast_perm m.nodes (empty mask)
  simpa [resize] using moved

theorem nodes_expand_perm (growth : HmapGrowth) (m : Hmap α) :
    (m.expand growth).nodes.Perm m.nodes := by
  rw [expand]
  split
  · exact nodes_resize_perm m _
  · exact List.Perm.refl _

theorem nodes_insert_perm (growth : HmapGrowth) (m : Hmap α) (hash : Nat) (value : α) :
    (m.insert growth hash value).nodes.Perm ((hash, value) :: m.nodes) := by
  simp only [insert]
  split
  · exact (nodes_expand_perm growth _).trans (nodes_insertFast_perm m hash value)
  · exact nodes_insertFast_perm m hash value

theorem mem_nodes_insert {growth : HmapGrowth} {m : Hmap α} {hash : Nat} {value : α}
    {node : Nat × α} :
    node ∈ (m.insert growth hash value).nodes ↔ node = (hash, value) ∨ node ∈ m.nodes := by
  rw [(nodes_insert_perm growth m hash value).mem_iff, List.mem_cons]

theorem nodes_remove [DecidableEq α] (m : Hmap α) (hash : Nat) (value : α) :
    (m.remove hash value).nodes = m.nodes.erase (hash, value) := by
  have bound : hash &&& m.mask < m.mask + 1 := Nat.lt_succ_of_le Nat.and_le_right
  obtain ⟨low, high, split⟩ := List.append_of_mem (List.mem_range.mpr bound)
  have distinct := split ▸ List.nodup_range (n := m.mask + 1)
  have apart : ∀ buckets : List Nat, hash &&& m.mask ∉ buckets →
      buckets.flatMap (m.remove hash value).chain = buckets.flatMap m.chain ∧
      (hash, value) ∉ buckets.flatMap m.chain := by
    intro buckets absent
    refine ⟨List.flatMap_congr fun bucket member => ?_, fun found => ?_⟩
    · exact Function.update_of_ne (ne_of_mem_of_not_mem member absent) _ _
    · obtain ⟨bucket, member, inChain⟩ := List.mem_flatMap.mp found
      exact absent (m.placed bucket _ inChain ▸ member)
  obtain ⟨sameLow, notLow⟩ := apart low (by grind)
  obtain ⟨sameHigh, notHigh⟩ := apart high (by grind)
  have here : (m.remove hash value).chain (hash &&& m.mask) =
      (m.chain (hash &&& m.mask)).erase (hash, value) := Function.update_self ..
  rw [nodes, nodes, mask_remove, split, List.flatMap_append, List.flatMap_append, List.flatMap_cons,
    List.flatMap_cons, sameLow, sameHigh, here, List.erase_append_right _ notLow]
  by_cases member : (hash, value) ∈ m.chain (hash &&& m.mask)
  · rw [List.erase_append_left _ member]
  · rw [List.erase_append_right _ member, List.erase_of_not_mem member, List.erase_of_not_mem notHigh]

theorem nodes_remove_perm [DecidableEq α] (m : Hmap α) (hash : Nat) (value : α) :
    (m.remove hash value).nodes.Perm (m.nodes.erase (hash, value)) := by
  rw [nodes_remove]

theorem nodes_modify (m : Hmap α) (update : α → α) :
    (m.modify update).nodes = m.nodes.map fun node => (node.1, update node.2) := by
  simp [nodes, modify, List.map_flatMap]

/-! Maps whose nodes are hashed by a key of their value. `Keyed` is what a caller
gets that looks a key up before it inserts one. -/

section Keyed

variable {κ : Type}

def Hashed (m : Hmap α) (hash : κ → Nat) (key : α → κ) : Prop :=
  ∀ node ∈ m.nodes, node.1 = hash (key node.2)

structure Keyed (m : Hmap α) (hash : κ → Nat) (key : α → κ) : Prop where
  hashed : m.Hashed hash key
  unique : (m.values.map key).Nodup

variable {hash : κ → Nat} {key : α → κ}

theorem mem_inBucket {m : Hmap α} {bucketHash : Nat} {value : α} :
    value ∈ m.inBucket bucketHash ↔
      ∃ nodeHash, (nodeHash, value) ∈ m.nodes ∧ nodeHash &&& m.mask = bucketHash &&& m.mask := by
  simp only [inBucket, List.mem_map, Prod.exists, exists_eq_right]
  constructor
  · rintro ⟨nodeHash, member⟩
    have placed := m.placed _ _ member
    exact ⟨nodeHash, mem_nodes.mpr (by simpa [placed] using member), placed⟩
  · rintro ⟨nodeHash, member, same⟩
    exact ⟨nodeHash, by simpa [same] using mem_nodes.mp member⟩

theorem mem_withHash {m : Hmap α} {nodeHash : Nat} {value : α} :
    value ∈ m.withHash nodeHash ↔ (nodeHash, value) ∈ m.nodes := by
  simp [withHash, mem_nodes]

theorem firstWithHash_some {m : Hmap α} {nodeHash : Nat} {value : α}
    (found : m.firstWithHash nodeHash = some value) : (nodeHash, value) ∈ m.nodes :=
  mem_withHash.mp (List.mem_of_mem_head? found)

theorem firstWithHash_none {m : Hmap α} {nodeHash : Nat}
    (absent : m.firstWithHash nodeHash = none) (value : α) : (nodeHash, value) ∉ m.nodes := by
  intro member
  have inChain := mem_withHash.mpr member
  rw [List.head?_eq_none_iff.mp absent] at inChain
  cases inChain

theorem Keyed.empty (mask : Nat) : (Hmap.empty mask : Hmap α).Keyed hash key where
  hashed := by simp [Hashed]
  unique := by simp [values]

theorem values_insert_perm (growth : HmapGrowth) (m : Hmap α) (nodeHash : Nat) (value : α) :
    (m.insert growth nodeHash value).values.Perm (value :: m.values) :=
  (nodes_insert_perm growth m nodeHash value).map Prod.snd

theorem Hashed.insert {m : Hmap α} (hashed : m.Hashed hash key) (growth : HmapGrowth) (value : α) :
    (m.insert growth (hash (key value)) value).Hashed hash key := by
  intro node member
  rcases mem_nodes_insert.mp member with same | old
  · rw [same]
  · exact hashed node old

theorem values_modify (m : Hmap α) (update : α → α) :
    (m.modify update).values = m.values.map update := by
  simp [values, nodes_modify, Function.comp_def]

theorem Hashed.modify {m : Hmap α} (hashed : m.Hashed hash key) {update : α → α}
    (kept : ∀ value, key (update value) = key value) : (m.modify update).Hashed hash key := by
  intro node member
  rw [nodes_modify] at member
  obtain ⟨old, inNodes, same⟩ := List.mem_map.mp member
  rw [← same, kept]
  exact hashed old inNodes

theorem Keyed.modify {m : Hmap α} (keyed : m.Keyed hash key) {update : α → α}
    (kept : ∀ value, key (update value) = key value) : (m.modify update).Keyed hash key where
  hashed := keyed.hashed.modify kept
  unique := by
    rw [values_modify, List.map_map]
    have same : key ∘ update = key := funext kept
    rw [same]
    exact keyed.unique

theorem mem_nodes_remove [DecidableEq α] {m : Hmap α} {nodeHash : Nat} {value : α} {node : Nat × α}
    (member : node ∈ (m.remove nodeHash value).nodes) : node ∈ m.nodes :=
  List.mem_of_mem_erase ((nodes_remove_perm m nodeHash value).mem_iff.mp member)

theorem Hashed.remove [DecidableEq α] {m : Hmap α} (hashed : m.Hashed hash key) (value : α) :
    (m.remove (hash (key value)) value).Hashed hash key :=
  fun node member => hashed node (mem_nodes_remove member)

theorem values_remove_perm [DecidableEq α] {m : Hmap α} {nodeHash : Nat} {value : α}
    (member : (nodeHash, value) ∈ m.nodes) :
    (value :: (m.remove nodeHash value).values).Perm m.values := by
  have split := (List.perm_cons_erase member).trans
    (List.Perm.cons _ (nodes_remove_perm m nodeHash value).symm)
  simpa [values] using (split.map Prod.snd).symm

theorem Hashed.mem_nodes {m : Hmap α} (hashed : m.Hashed hash key) {value : α}
    (member : value ∈ m.values) : (hash (key value), value) ∈ m.nodes := by
  obtain ⟨nodeHash, inNodes⟩ := mem_values.mp member
  have hashEq : nodeHash = hash (key value) := hashed _ inNodes
  exact hashEq ▸ inNodes

theorem Keyed.remove [DecidableEq α] {m : Hmap α} (keyed : m.Keyed hash key) {value : α}
    (member : value ∈ m.values) : (m.remove (hash (key value)) value).Keyed hash key where
  hashed := keyed.hashed.remove value
  unique := by
    have perm := (values_remove_perm (keyed.hashed.mem_nodes member)).map key
    exact (List.nodup_cons.mp (perm.nodup_iff.mpr keyed.unique)).2

variable [DecidableEq κ]

def lookup (m : Hmap α) (hash : κ → Nat) (key : α → κ) (wanted : κ) : Option α :=
  (m.inBucket (hash wanted)).find? fun value => key value = wanted

theorem lookup_some {m : Hmap α} {wanted : κ} {value : α}
    (found : m.lookup hash key wanted = some value) : value ∈ m.values ∧ key value = wanted := by
  have member := List.mem_of_find?_eq_some found
  have matched := List.find?_some found
  obtain ⟨nodeHash, inNodes, _⟩ := mem_inBucket.mp member
  exact ⟨mem_values.mpr ⟨nodeHash, inNodes⟩, by simpa using matched⟩

theorem Hashed.lookup_none {m : Hmap α} (hashed : m.Hashed hash key) {wanted : κ}
    (missing : m.lookup hash key wanted = none) : ∀ value ∈ m.values, key value ≠ wanted := by
  intro value member same
  obtain ⟨nodeHash, inNodes⟩ := mem_values.mp member
  have hashEq : nodeHash = hash wanted := by rw [← same]; exact hashed _ inNodes
  have inBucket : value ∈ m.inBucket (hash wanted) :=
    mem_inBucket.mpr ⟨nodeHash, inNodes, by rw [hashEq]⟩
  have refused := List.find?_eq_none.mp missing value inBucket
  simp [same] at refused

theorem Hashed.find_withHash {m : Hmap α} (hashed : m.Hashed hash key) (wanted : κ) :
    (m.withHash (hash wanted)).find? (fun value => key value = wanted) =
      m.lookup hash key wanted := by
  have chained : ∀ node ∈ m.chain (hash wanted &&& m.mask), node.1 = hash (key node.2) := by
    intro node member
    have placed := m.placed _ _ member
    exact hashed node (Hmap.mem_nodes.mpr (by rwa [placed]))
  simp only [withHash, lookup, inBucket]
  generalize m.chain (hash wanted &&& m.mask) = chain at chained ⊢
  induction chain with
  | nil => rfl
  | cons node rest ih =>
      have tail := ih fun other member => chained other (List.mem_cons_of_mem _ member)
      by_cases same : key node.2 = wanted
      · have here : node.1 = hash wanted := by
          rw [chained node List.mem_cons_self, same]
        simp [here, same]
      · by_cases here : node.1 = hash wanted
        · simpa [here, same] using tail
        · simpa [here, same] using tail

theorem Keyed.lookup_eq_some_iff {m : Hmap α} (keyed : m.Keyed hash key) {wanted : κ} {value : α} :
    m.lookup hash key wanted = some value ↔ value ∈ m.values ∧ key value = wanted := by
  refine ⟨lookup_some, ?_⟩
  rintro ⟨member, same⟩
  cases found : m.lookup hash key wanted with
  | none => exact (keyed.hashed.lookup_none found value member same).elim
  | some other =>
      obtain ⟨otherMember, otherKey⟩ := lookup_some found
      exact congrArg some (List.inj_on_of_nodup_map keyed.unique otherMember member
        (otherKey.trans same.symm))

theorem Keyed.insert {m : Hmap α} (keyed : m.Keyed hash key) (growth : HmapGrowth) {value : α}
    (fresh : m.lookup hash key (key value) = none) :
    (m.insert growth (hash (key value)) value).Keyed hash key where
  hashed := keyed.hashed.insert growth value
  unique := by
    have perm := (values_insert_perm growth m (hash (key value)) value).map key
    refine perm.nodup_iff.mpr (List.nodup_cons.mpr ⟨?_, keyed.unique⟩)
    intro member
    obtain ⟨other, inValues, same⟩ := List.mem_map.mp member
    exact keyed.hashed.lookup_none fresh other inValues same

theorem Keyed.lookup_insert {m : Hmap α} (keyed : m.Keyed hash key) (growth : HmapGrowth)
    {value : α} (fresh : m.lookup hash key (key value) = none) (wanted : κ) :
    (m.insert growth (hash (key value)) value).lookup hash key wanted =
      if key value = wanted then some value else m.lookup hash key wanted := by
  have grown := keyed.insert growth fresh
  have mem : ∀ other, other ∈ (m.insert growth (hash (key value)) value).values ↔
      other = value ∨ other ∈ m.values := by
    intro other
    rw [(values_insert_perm growth m (hash (key value)) value).mem_iff, List.mem_cons]
  by_cases here : key value = wanted
  · rw [if_pos here]
    exact grown.lookup_eq_some_iff.mpr ⟨(mem value).mpr (Or.inl rfl), here⟩
  · rw [if_neg here]
    apply Option.ext
    intro other
    rw [grown.lookup_eq_some_iff, keyed.lookup_eq_some_iff, mem]
    constructor
    · rintro ⟨rfl | old, same⟩
      · exact (here same).elim
      · exact ⟨old, same⟩
    · exact fun old => ⟨Or.inr old.1, old.2⟩

theorem lookup_modify {m : Hmap α} {update : α → α} (kept : ∀ value, key (update value) = key value)
    (wanted : κ) : (m.modify update).lookup hash key wanted =
      (m.lookup hash key wanted).map update := by
  simp only [lookup, inBucket, modify, List.map_map]
  induction m.chain (hash wanted &&& m.mask) with
  | nil => rfl
  | cons node rest ih =>
      simp only [List.map_cons, List.find?_cons, Function.comp_apply, kept]
      split
      · rfl
      · exact ih

theorem Keyed.lookup_remove [DecidableEq α] {m : Hmap α} (keyed : m.Keyed hash key) {value : α}
    (member : value ∈ m.values) (wanted : κ) :
    (m.remove (hash (key value)) value).lookup hash key wanted =
      if key value = wanted then none else m.lookup hash key wanted := by
  have left := keyed.remove member
  have perm := values_remove_perm (keyed.hashed.mem_nodes member)
  have unique := (perm.map key).nodup_iff.mpr keyed.unique
  have absent : key value ∉ (m.remove (hash (key value)) value).values.map key :=
    (List.nodup_cons.mp unique).1
  apply Option.ext
  intro other
  rw [left.lookup_eq_some_iff]
  by_cases here : key value = wanted
  · rw [if_pos here]
    refine iff_of_false ?_ (by simp)
    rintro ⟨inValues, same⟩
    exact absent (List.mem_map.mpr ⟨other, inValues, same.trans here.symm⟩)
  · rw [if_neg here, keyed.lookup_eq_some_iff, ← perm.mem_iff, List.mem_cons]
    constructor
    · exact fun old => ⟨Or.inr old.1, old.2⟩
    · rintro ⟨rfl | old, same⟩
      · exact (here same).elim
      · exact ⟨old, same⟩

end Keyed

/-! What is at the head of a bucket. Without growth it is the node inserted last; when
the map grows every chain is turned round. -/

section Head

def nextMask (growth : HmapGrowth) (mask count : Nat) : Nat :=
  if mask < count / 2 ∧ mask < growth.calcMask count then growth.calcMask count else mask

theorem count_insertFast (m : Hmap α) (hash : Nat) (value : α) :
    (m.insertFast hash value).count = m.count + 1 :=
  (nodes_insertFast_perm m hash value).length_eq

theorem count_insert (growth : HmapGrowth) (m : Hmap α) (hash : Nat) (value : α) :
    (m.insert growth hash value).count = m.count + 1 :=
  (nodes_insert_perm growth m hash value).length_eq

theorem mask_foldl_insertFast (added : List (Nat × α)) (m : Hmap α) :
    (added.foldl (fun moved node => moved.insertFast node.1 node.2) m).mask = m.mask := by
  induction added generalizing m with
  | nil => rfl
  | cons node rest ih => exact ih _

theorem insert_eq (growth : HmapGrowth) (m : Hmap α) (hash : Nat) (value : α) :
    m.insert growth hash value =
      if m.mask < (m.count + 1) / 2 ∧ m.mask < growth.calcMask (m.count + 1) then
        (m.insertFast hash value).resize (growth.calcMask (m.count + 1))
      else m.insertFast hash value := by
  simp only [insert, expand, mask_insertFast, count_insertFast]
  by_cases crowded : m.mask < (m.count + 1) / 2
  · by_cases grows : m.mask < growth.calcMask (m.count + 1)
    · simp [crowded, grows]
    · simp [crowded, grows]
  · simp [crowded]

theorem mask_insert (growth : HmapGrowth) (m : Hmap α) (hash : Nat) (value : α) :
    (m.insert growth hash value).mask = nextMask growth m.mask (m.count + 1) := by
  rw [insert_eq, nextMask]
  split
  · exact mask_foldl_insertFast _ _
  · rfl

theorem chain_foldl_insertFast (bucket : Nat) (added : List (Nat × α)) (m : Hmap α) :
    (added.foldl (fun moved node => moved.insertFast node.1 node.2) m).chain bucket =
      (added.filter fun node => node.1 &&& m.mask = bucket).reverse ++ m.chain bucket := by
  induction added generalizing m with
  | nil => rfl
  | cons node rest ih =>
      rw [List.foldl_cons, ih, mask_insertFast, chain_insertFast, List.filter_cons]
      by_cases here : node.1 &&& m.mask = bucket
      · simp [here]
      · simp [here]

theorem chain_resize (m : Hmap α) (mask bucket : Nat) :
    (m.resize mask).chain bucket =
      (m.nodes.filter fun node => node.1 &&& mask = bucket).reverse := by
  rw [resize, chain_foldl_insertFast]
  exact List.append_nil _

theorem nodes_split (m : Hmap α) {bucket : Nat} (inside : bucket ≤ m.mask) :
    ∃ before after, m.nodes = before ++ m.chain bucket ++ after := by
  obtain ⟨low, high, split⟩ := List.append_of_mem (List.mem_range.mpr (Nat.lt_succ_of_le inside))
  refine ⟨low.flatMap m.chain, high.flatMap m.chain, ?_⟩
  rw [nodes, split, List.flatMap_append, List.flatMap_cons, List.append_assoc]

theorem firstInBucket_eq (m : Hmap α) (hash : Nat) :
    m.firstInBucket hash = ((m.chain (hash &&& m.mask)).head?).map Prod.snd := by
  rw [firstInBucket, inBucket, List.head?_map]

/-- Without growth the newest node answers for its whole bucket. -/
theorem firstInBucket_insertFast (m : Hmap α) {hash wanted : Nat} (value : α)
    (collide : wanted &&& m.mask = hash &&& m.mask) :
    (m.insertFast hash value).firstInBucket wanted = some value := by
  rw [firstInBucket_eq, mask_insertFast, chain_insertFast, if_pos collide.symm]
  rfl

/-- Growth puts the newest node behind the others of its bucket. -/
theorem firstInBucket_resize_ne (m : Hmap α) {hash mask : Nat} {value : α}
    (nested : m.mask &&& mask = m.mask) (once : (m.insertFast hash value).values.Nodup)
    {node : Nat × α} (member : node ∈ m.nodes) (collide : node.1 &&& mask = hash &&& mask) :
    ((m.insertFast hash value).resize mask).firstInBucket hash ≠ some value := by
  have maskEq : ((m.insertFast hash value).resize mask).mask = mask := mask_foldl_insertFast _ _
  have sameBucket : node.1 &&& m.mask = hash &&& m.mask := by
    rw [← nested, Nat.and_comm m.mask, ← Nat.and_assoc, collide, Nat.and_assoc]
  have inChain : node ∈ m.chain (hash &&& m.mask) := sameBucket ▸ mem_nodes.mp member
  obtain ⟨before, after, split⟩ := (m.insertFast hash value).nodes_split
    (show hash &&& m.mask ≤ m.mask from Nat.and_le_right)
  rw [chain_insertFast, if_pos rfl] at split
  have behind : node ∈ (m.chain (hash &&& m.mask) ++ after).filter
      (fun node => node.1 &&& mask = hash &&& mask) := by
    rw [List.mem_filter]
    exact ⟨List.mem_append_left _ inChain, by simpa using collide⟩
  have alone : value ∉ (m.chain (hash &&& m.mask) ++ after).map Prod.snd := by
    rw [values, split, List.append_assoc, List.map_append, List.cons_append, List.map_cons,
      List.nodup_append] at once
    exact (List.nodup_cons.mp once.2.1).1
  rw [firstInBucket_eq, maskEq, chain_resize, List.head?_reverse, split, List.append_assoc,
    List.filter_append, List.cons_append, List.filter_cons_of_pos (by simp)]
  -- the last of the filtered nodes comes after the new one
  intro isLast
  obtain ⟨last, lastEq, same⟩ := Option.map_eq_some_iff.mp isLast
  have nonempty : (m.chain (hash &&& m.mask) ++ after).filter
      (fun node => node.1 &&& mask = hash &&& mask) ≠ [] := List.ne_nil_of_mem behind
  rw [List.getLast?_append_cons, List.getLast?_cons_of_ne_nil nonempty] at lastEq
  have inLater := List.mem_of_getLast? lastEq
  exact alone (List.mem_map.mpr ⟨last, List.mem_of_mem_filter inLater, same⟩)

end Head

end Hmap
