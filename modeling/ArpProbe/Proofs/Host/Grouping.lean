import ArpProbe.Proofs.Host.Folding
import Mathlib.Data.List.TakeWhile
import Mathlib.Tactic.SplitIfs

/-!
# Interfaces as groups of links

The interfaces of a host are its links put into groups by base name. Here they are looked at from
outside the fold: what the name of a group is, that every address of a link goes to one group and to
one place in it (`addresses_enumerate_perm`), and that folding interfaces which are folded already
leaves them as they are (`fold_enumerate`). `folding_exact` puts this together with what each group
makes of its links.
-/

namespace ArpProbe

/-! ## Base names -/

namespace HostLink

/-- A base name ends before the first colon. -/
lemma colon_notMem_baseName (link : HostLink) : ':' ∉ link.baseName.toList := by
  intro member
  rw [baseName, String.toList_ofList] at member
  simpa using List.mem_takeWhile_imp member

/-- What a base name leaves out starts with a colon. -/
lemma exists_name_eq (link : HostLink) :
    ∃ rest, link.name.toList = link.baseName.toList ++ rest ∧ ∀ c ∈ rest.head?, c = ':' := by
  refine ⟨link.name.toList.dropWhile (· ≠ ':'), ?_, ?_⟩
  · rw [baseName, String.toList_ofList, List.takeWhile_append_dropWhile]
  · intro c first
    have stop := List.head?_dropWhile_not (fun c => decide (c ≠ ':')) link.name.toList
    rw [Option.mem_def.1 first] at stop
    simpa using stop

/-- The interface of a link, under the name of the link itself. -/
def listed (link : HostLink) : Interface :=
  { link.toInterface with name := link.name }

end HostLink

namespace Interface

variable {found : List Interface} {iface : Interface} {links : List HostLink}

/-! ## Folding interfaces -/

/-- The interface under its name up to the first colon. -/
def parent (iface : Interface) : Interface :=
  { iface with name := String.ofList (iface.name.toList.takeWhile (· ≠ ':')) }

/-- Folds interfaces one after another, each into the one of its base name. -/
def fold (ifaces : List Interface) : List Interface :=
  ifaces.foldl (fun found iface => insert found iface.parent) []

lemma fold_concat (ifaces : List Interface) (iface : Interface) :
    fold (ifaces ++ [iface]) = insert (fold ifaces) iface.parent := by
  rw [fold, List.foldl_append]
  rfl

/-- The interfaces of a host are its links folded. -/
lemma fold_listed (links : List HostLink) : fold (links.map HostLink.listed) = enumerate links := by
  rw [fold, enumerate, List.foldl_map, List.foldl_map]
  rfl

/-- A name without a colon is its own base name. -/
lemma parent_eq_self (plain : ':' ∉ iface.name.toList) : iface.parent = iface := by
  have whole : iface.name.toList.takeWhile (· ≠ ':') = iface.name.toList := by
    rw [List.takeWhile_eq_self_iff]
    intro c member
    simpa using fun colon : c = ':' => plain (colon ▸ member)
  rw [parent, whole, String.ofList_toList]

/-- Interfaces of different names without colons have nothing to be folded into. -/
lemma fold_eq_self (unique : (found.map name).Nodup)
    (plain : ∀ iface ∈ found, ':' ∉ iface.name.toList) : fold found = found := by
  induction found using List.reverseRecOn with
  | nil => rfl
  | append_singleton found iface ih =>
    rw [List.map_append, List.map_singleton, ← List.concat_eq_append, List.nodup_concat] at unique
    have earlier : ∀ other ∈ found, ':' ∉ other.name.toList :=
      fun other member => plain other (List.mem_append_left _ member)
    have last : ':' ∉ iface.name.toList := plain iface (by simp)
    have new : ∀ other ∈ found, other.name ≠ iface.name :=
      fun other member same => unique.1 (List.mem_map.2 ⟨other, member, same⟩)
    rw [fold_concat, ih unique.2 earlier, parent_eq_self last, insert_of_new new]

lemma nodup_name_enumerate (links : List HostLink) : ((enumerate links).map name).Nodup := by
  rw [map_name_enumerate]
  exact HostLink.nodup_baseNames links

/-- No interface of a host has a colon in its name. -/
lemma colon_notMem_name (member : iface ∈ enumerate links) : ':' ∉ iface.name.toList := by
  have known : iface.name ∈ HostLink.baseNames links := by
    rw [← map_name_enumerate]
    exact List.mem_map_of_mem member
  obtain ⟨link, -, base⟩ := HostLink.mem_baseNames.1 known
  rw [← base]
  exact link.colon_notMem_baseName

/-- The interfaces of a host are folded already. -/
lemma fold_enumerate (links : List HostLink) : fold (enumerate links) = enumerate links :=
  fold_eq_self (nodup_name_enumerate links) fun _ => colon_notMem_name

/-! ## Addresses -/

/-- Inserting a link adds its addresses to those found, and nothing else. -/
lemma addresses_insert_perm (found : List Interface) (iface : Interface) :
    ((insert found iface).flatMap addresses).Perm (found.flatMap addresses ++ iface.addresses) := by
  induction found with
  | nil => simp [insert]
  | cons other found ih =>
    rw [insert]
    split_ifs with same
    · -- the addresses go in between those of the interface and those of the interfaces behind it
      rw [List.flatMap_cons, List.flatMap_cons, absorb, List.append_assoc, List.append_assoc]
      exact List.perm_append_comm.append_left _
    · rw [List.flatMap_cons, List.flatMap_cons, List.append_assoc]
      exact ih.append_left _

/-- No address of a link is lost, and none comes up twice. -/
lemma addresses_enumerate_perm (links : List HostLink) :
    ((enumerate links).flatMap addresses).Perm (links.flatMap HostLink.localAddresses) := by
  induction links using List.reverseRecOn with
  | nil => exact .refl _
  | append_singleton links link ih =>
    rw [enumerate_concat, List.flatMap_append, List.flatMap_singleton]
    exact (addresses_insert_perm _ _).trans (ih.append_right _)

/-! ## Looking up a name -/

/-- A name leads to the one interface of the host that has it. -/
lemma byName_eq_ok_iff {name : String} :
    byName (enumerate links) name = .ok iface ↔ iface ∈ enumerate links ∧ iface.name = name := by
  constructor
  · intro found
    rw [byName] at found
    split at found
    · next first =>
      obtain rfl := Except.ok.inj found
      exact ⟨List.mem_of_find?_eq_some first, by simpa using List.find?_some first⟩
    · cases found
  · rintro ⟨member, rfl⟩
    exact byName_of_mem member

lemma byName_of_notMem {name : String} (unknown : name ∉ found.map Interface.name) :
    byName found name = .error (.interfaceNotFound name) := by
  have none : found.find? (·.name == name) = none := by
    rw [List.find?_eq_none]
    intro other member same
    exact unknown (List.mem_map.2 ⟨other, member, by simpa using same⟩)
  rw [byName, none]

/-! ## All links -/

/-- The interfaces that a list of links makes.

There is one for each base name, which is what stands in front of the first colon of a name, in the
order in which the base names first appear. Its addresses are the IPv4 addresses of its links, in
their order; it is up if one of its links is, has the first hardware address among them and the
index of the first. No address of a link is lost, and none is in two places. Folding the interfaces
again leaves them as they are, and looking up a name gives the interface of that name if there is
one. -/
theorem folding_exact (links : List HostLink) :
    let found := enumerate links
    found = fold (links.map HostLink.listed) ∧
    found.map name = (links.map HostLink.baseName).eraseDups ∧
    (∀ link ∈ links, ':' ∉ link.baseName.toList ∧
      ∃ rest, link.name.toList = link.baseName.toList ++ rest ∧ ∀ c ∈ rest.head?, c = ':') ∧
    (found.map name).Nodup ∧ (∀ iface ∈ found, ':' ∉ iface.name.toList) ∧
    (∀ iface ∈ found,
      let own := links.filter (·.baseName = iface.name)
      iface.addresses =
        own.flatMap (fun link => link.networks.filterMap Network.localAddress?) ∧
      (iface.up = true ↔ ∃ link ∈ own, link.isUp = true) ∧
      iface.mac = own.findSome? HostLink.mac ∧
      some iface.index = own.head?.map HostLink.index) ∧
    (found.flatMap addresses).Perm (links.flatMap HostLink.localAddresses) ∧
    fold found = found ∧
    (∀ name iface, byName found name = .ok iface ↔ iface ∈ found ∧ iface.name = name) ∧
    (∀ name, name ∉ found.map Interface.name →
      byName found name = .error (.interfaceNotFound name)) := by
  intro found
  refine ⟨(fold_listed links).symm, map_name_enumerate links,
    fun link _ => ⟨link.colon_notMem_baseName, link.exists_name_eq⟩, nodup_name_enumerate links,
    fun iface => colon_notMem_name, ?_, addresses_enumerate_perm links, fold_enumerate links,
    fun name iface => byName_eq_ok_iff, fun name => byName_of_notMem⟩
  intro iface member own
  have made : iface ∈ (HostLink.baseNames links).map (ofBase links) := by
    rw [← enumerate_eq]
    exact member
  obtain ⟨name, known, rfl⟩ := List.mem_map.1 made
  obtain ⟨first, others, split⟩ := List.exists_cons_of_ne_nil (HostLink.ofBase_ne_nil known)
  have own_eq : own = first :: others := split
  refine ⟨rfl, List.any_eq_true, rfl, ?_⟩
  rw [own_eq, ofBase, ofLinks, split]
  rfl

end Interface

end ArpProbe
