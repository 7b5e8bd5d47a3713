import ArpProbe.Host.Enumeration
import Mathlib.Data.List.Induction
import Mathlib.Data.List.Nodup
import Mathlib.Tactic.Lemma

/-!
# Folding links into interfaces

The interfaces of a host, said on the list of its links: `enumerate_eq` gives one interface for each
base name, in the order in which the names first appear, made from all links of that name in their
order. Names are therefore unique, and looking one up leads back to its interface.
-/

namespace ArpProbe

namespace HostLink

/-- The base names of links, in the order in which they first appear. -/
def baseNames (links : List HostLink) : List String :=
  (links.map baseName).eraseDups

/-- The links of a base name, in the order of the list. -/
def ofBase (links : List HostLink) (name : String) : List HostLink :=
  links.filter (·.baseName = name)

variable {links : List HostLink} {link : HostLink} {name : String}

lemma mem_baseNames : name ∈ baseNames links ↔ ∃ link ∈ links, link.baseName = name := by
  rw [baseNames, List.mem_eraseDups, List.mem_map]

lemma mem_ofBase : link ∈ ofBase links name ↔ link ∈ links ∧ link.baseName = name := by
  simp [ofBase]

lemma ofBase_ne_nil (known : name ∈ baseNames links) : ofBase links name ≠ [] := by
  obtain ⟨link, member, base⟩ := mem_baseNames.1 known
  exact List.ne_nil_of_mem (mem_ofBase.2 ⟨member, base⟩)

/-! ## One more link -/

/-- A link of a known base name adds no name. -/
lemma baseNames_concat_of_mem (known : link.baseName ∈ baseNames links) :
    baseNames (links ++ [link]) = baseNames links := by
  rw [baseNames, List.mem_eraseDups, ← List.elem_iff] at known
  have removed : [link.baseName].removeAll (links.map baseName) = [] := by
    rw [List.removeAll, List.filter_cons_of_neg (by rw [known]; decide), List.filter_nil]
  rw [baseNames, List.map_append, List.eraseDups_append, List.map_singleton, removed,
    List.eraseDups_nil, List.append_nil, baseNames]

lemma baseNames_concat_of_notMem (new : link.baseName ∉ baseNames links) :
    baseNames (links ++ [link]) = baseNames links ++ [link.baseName] := by
  rw [baseNames, List.mem_eraseDups, ← List.elem_iff, Bool.not_eq_true] at new
  have kept : [link.baseName].removeAll (links.map baseName) = [link.baseName] := by
    rw [List.removeAll, List.filter_cons_of_pos (by rw [new]; decide), List.filter_nil]
  rw [baseNames, List.map_append, List.eraseDups_append, List.map_singleton, kept, baseNames]
  rfl

lemma nodup_baseNames (links : List HostLink) : (baseNames links).Nodup := by
  induction links using List.reverseRecOn with
  | nil => exact List.nodup_nil
  | append_singleton links link ih =>
    by_cases known : link.baseName ∈ baseNames links
    · rwa [baseNames_concat_of_mem known]
    · rw [baseNames_concat_of_notMem known]
      rw [← List.concat_eq_append]
      exact ih.concat known

lemma ofBase_concat_self :
    ofBase (links ++ [link]) link.baseName = ofBase links link.baseName ++ [link] := by
  simp [ofBase]

lemma ofBase_concat_of_ne (other : link.baseName ≠ name) :
    ofBase (links ++ [link]) name = ofBase links name := by
  simp [ofBase, other]

end HostLink

namespace Interface

/-- The interface that links of one base name make together: the index of the first link, the first
hardware address there is, and all addresses in order; it is up if one of them is. -/
def ofLinks (name : String) (links : List HostLink) : Interface where
  name := name
  index := (links.head?.map HostLink.index).getD 0
  mac := links.findSome? HostLink.mac
  addresses := links.flatMap HostLink.localAddresses
  up := links.any HostLink.isUp

/-- The interface of a base name. -/
def ofBase (links : List HostLink) (name : String) : Interface :=
  ofLinks name (HostLink.ofBase links name)

lemma ofLinks_singleton (link : HostLink) : ofLinks link.baseName [link] = link.toInterface := by
  simp [ofLinks, HostLink.toInterface]

/-- One more link of the same base name is absorbed. -/
lemma ofLinks_concat {name : String} {links : List HostLink} (link : HostLink)
    (nonempty : links ≠ []) :
    ofLinks name (links ++ [link]) = (ofLinks name links).absorb link.toInterface := by
  simp [ofLinks, absorb, HostLink.toInterface, List.head?_append_of_ne_nil _ nonempty]

/-! ## The fold -/

variable {found : List Interface} {iface : Interface} {link : HostLink} {links : List HostLink}

/-- One more link is inserted into the interfaces found before it. -/
lemma enumerate_concat :
    enumerate (links ++ [link]) = insert (enumerate links) link.toInterface := by
  simp [enumerate]

/-- A link of an unknown name becomes a new interface at the end. -/
lemma insert_of_new (new : ∀ other ∈ found, other.name ≠ iface.name) :
    insert found iface = found ++ [iface] := by
  induction found with
  | nil => rfl
  | cons other found ih =>
    rw [List.forall_mem_cons] at new
    rw [insert, if_neg new.1, ih new.2, List.cons_append]

/-- A link of a known name goes into the first interface of that name. -/
lemma insert_of_known {before after : List Interface} {known : Interface}
    (same : known.name = iface.name) (first : ∀ other ∈ before, other.name ≠ iface.name) :
    insert (before ++ known :: after) iface = before ++ known.absorb iface :: after := by
  induction before with
  | nil => rw [List.nil_append, insert, if_pos same, List.nil_append]
  | cons other before ih =>
    rw [List.forall_mem_cons] at first
    rw [List.cons_append, insert, if_neg first.1, ih first.2, List.cons_append]

/-- One more link leaves the interfaces of all other names as they are. -/
lemma map_ofBase_concat {names : List String} (others : link.baseName ∉ names) :
    names.map (ofBase (links ++ [link])) = names.map (ofBase links) := by
  apply List.map_congr_left
  intro name member
  have other : link.baseName ≠ name := fun same => others (same ▸ member)
  rw [ofBase, HostLink.ofBase_concat_of_ne other, ofBase]

/-- Each base name makes one interface, at the place where the name first appears. -/
lemma enumerate_eq (links : List HostLink) :
    enumerate links = (HostLink.baseNames links).map (ofBase links) := by
  -- links are folded from the front, so the induction takes the last one off
  induction links using List.reverseRecOn with
  | nil => rfl
  | append_singleton links link ih =>
    rw [enumerate_concat, ih]
    by_cases known : link.baseName ∈ HostLink.baseNames links
    · -- unique names split the list at the one of the link, which is the only entry to change
      obtain ⟨before, after, split⟩ := List.append_of_mem known
      have unique := HostLink.nodup_baseNames links
      rw [split, List.nodup_middle, List.nodup_cons, List.mem_append, not_or] at unique
      have first : ∀ other ∈ before.map (ofBase links), other.name ≠ link.toInterface.name := by
        intro other member same
        obtain ⟨name, earlier, rfl⟩ := List.mem_map.1 member
        obtain rfl : name = link.baseName := same
        exact unique.1.1 earlier
      have same : (ofBase links link.baseName).name = link.toInterface.name := rfl
      rw [HostLink.baseNames_concat_of_mem known, split, List.map_append, List.map_cons,
        List.map_append, List.map_cons, insert_of_known same first, map_ofBase_concat unique.1.1,
        map_ofBase_concat unique.1.2, ofBase, ofBase, HostLink.ofBase_concat_self,
        ofLinks_concat link (HostLink.ofBase_ne_nil known)]
    · have new : ∀ other ∈ (HostLink.baseNames links).map (ofBase links),
          other.name ≠ link.toInterface.name := by
        intro other member same
        obtain ⟨name, found, rfl⟩ := List.mem_map.1 member
        obtain rfl : name = link.baseName := same
        exact known found
      have none : HostLink.ofBase links link.baseName = [] := by
        rw [List.eq_nil_iff_forall_not_mem]
        intro other member
        obtain ⟨member, base⟩ := HostLink.mem_ofBase.1 member
        exact known (HostLink.mem_baseNames.2 ⟨other, member, base⟩)
      rw [insert_of_new new, HostLink.baseNames_concat_of_notMem known, List.map_append,
        map_ofBase_concat known, List.map_singleton, ofBase, HostLink.ofBase_concat_self, none,
        List.nil_append, ofLinks_singleton]

/-- An alias may come before its parent, and any link of the name brings the interface up. -/
example :
    let mac : Mac := ⟨2, 0, 0, 0, 0, 1⟩
    enumerate [⟨"eth0:1", 3, none, [.v4 ⟨10, 9, 0, 1⟩ 24], 0⟩,
        ⟨"lo", 1, none, [.v4 ⟨127, 0, 0, 1⟩ 8], 1⟩,
        ⟨"eth0", 2, some mac, [.v4 ⟨192, 168, 1, 10⟩ 24], 1⟩] =
      [⟨"eth0", 3, some mac, [⟨⟨10, 9, 0, 1⟩, ⟨255, 255, 255, 0⟩⟩,
          ⟨⟨192, 168, 1, 10⟩, ⟨255, 255, 255, 0⟩⟩], true⟩,
        ⟨"lo", 1, none, [⟨⟨127, 0, 0, 1⟩, ⟨255, 0, 0, 0⟩⟩], true⟩] := by
  decide

/-! ## Names -/

/-- The names of the interfaces are the base names of the links. -/
lemma map_name_enumerate (links : List HostLink) :
    (enumerate links).map name = HostLink.baseNames links := by
  rw [enumerate_eq, List.map_map]
  exact List.map_id _

/-- Looking up the name of an interface of the host leads back to it. -/
lemma byName_of_mem (member : iface ∈ enumerate links) :
    byName (enumerate links) iface.name = .ok iface := by
  have unique : ((enumerate links).map name).Nodup := by
    rw [map_name_enumerate]
    exact HostLink.nodup_baseNames links
  obtain ⟨before, after, split⟩ := List.append_of_mem member
  rw [split, List.map_append, List.map_cons, List.nodup_middle, List.nodup_cons, List.mem_append,
    not_or] at unique
  have found : (enumerate links).find? (·.name == iface.name) = some iface := by
    rw [List.find?_eq_some_iff_append]
    refine ⟨beq_self_eq_true _, before, after, split, ?_⟩
    intro other earlier
    have distinct : other.name ≠ iface.name :=
      fun same => unique.1.1 (List.mem_map.2 ⟨other, earlier, same⟩)
    simpa using distinct
  rw [byName, found]

end Interface

end ArpProbe
