import GraphSelect.Proofs.Document.Attributes
import GraphSelect.Proofs.Graph.Edits
import Mathlib.Data.List.Induction

/-!
# Documents of nodes and links

A document of nodes and links loads when it has nodes, when their identifiers differ, and when every
link and the origin name one of them; a link may lead forward, and to its own node. Its graph then
has the nodes of the document in their order, each linked to the nodes that its links name. A
document that does not load is refused for the first thing that is wrong with it. The graph is
described as a list of nodes throughout, since adding a node and linking it change one place of it.
-/
namespace GraphSelect

namespace Graph

def ofNodes (nodes : List Node) : Graph := ⟨nodes.toArray⟩

@[simp] theorem size_ofNodes (nodes : List Node) : (ofNodes nodes).size = nodes.length := by
  simp [ofNodes, size]

@[simp] theorem get?_ofNodes (nodes : List Node) (id : NodeId) :
    (ofNodes nodes).get? id = nodes[id]? := by
  simp [ofNodes, get?]

theorem push_ofNodes (nodes : List Node) (n : Node) :
    (ofNodes nodes).push n = ofNodes (nodes ++ [n]) := by
  simp [ofNodes, push]

theorem modify_ofNodes (done rest : List Node) (n : Node) (f : Node → Node) :
    (ofNodes (done ++ n :: rest)).modify done.length f = ofNodes (done ++ f n :: rest) := by
  ext id : 1
  rw [get?_modify, get?_ofNodes, get?_ofNodes]
  split
  · next h =>
    subst h
    simp
  · next h =>
    rcases Nat.lt_or_gt_of_ne h with hlt | hgt
    · rw [List.getElem?_append_right (Nat.le_of_lt hlt), List.getElem?_append_right (Nat.le_of_lt hlt)]
      obtain ⟨k, hk⟩ := Nat.exists_eq_add_of_lt (Nat.sub_pos_of_lt hlt)
      simp [hk]
    · simp [List.getElem?_append_left hgt]

/-- A further link of a plain node; a link that is there already is not repeated. -/
theorem connect_ofNodes (done rest : List Node) {n : Node} (hkind : n.kind = .plain)
    (targets : List NodeId) {target : NodeId} (ht : target < done.length + rest.length + 1) :
    (ofNodes (done ++ { n with neighbors := targets.eraseDups } :: rest)).connect done.length target =
      .ok (ofNodes (done ++ { n with neighbors := (targets ++ [target]).eraseDups } :: rest)) := by
  let g := ofNodes (done ++ { n with neighbors := targets.eraseDups } :: rest)
  have hsource : g.get? done.length = some { n with neighbors := targets.eraseDups } := by simp [g]
  obtain ⟨m, htarget⟩ : ∃ m, g.get? target = some m := by
    refine lt_size_iff.1 ?_
    simp only [g, size_ofNodes, List.length_append, List.length_cons]
    omega
  have hconnect : g.connect done.length target =
      if targets.eraseDups.contains target then .ok g
      else .ok (g.modify done.length fun n => { n with neighbors := n.neighbors ++ [target] }) := by
    simp only [connect, find, hsource, htarget, hkind]
    rfl
  have herase : (targets ++ [target]).eraseDups =
      if targets.eraseDups.contains target then targets.eraseDups
      else targets.eraseDups ++ [target] := by
    rw [List.eraseDups_append]
    by_cases h : target ∈ targets
    · simp [List.removeAll, h]
    · simp [List.removeAll, h, List.eraseDups_cons]
  rw [hconnect, herase]
  split
  · rfl
  · rw [modify_ofNodes]

end Graph

namespace NodeOutline

/-- The attributes of a node: those of the document as texts, and the identifier unless the document
sets an attribute of this name. -/
def texts (n : NodeOutline) : Attributes :=
  .ofList (Scalar.texts n.attributes ++
    if n.attributes.any (·.1 = "id") then [] else [("id", n.id)])

def node (n : NodeOutline) : Node :=
  { name := n.name.getD n.id, kind := .plain, attributes := n.texts }

theorem get?_texts (n : NodeOutline) (key : String) :
    n.texts.get? key =
      ((n.attributes.reverse.lookup key).map Scalar.render).or
        (if key = "id" then some n.id else none) := by
  rw [texts, Attributes.get?_ofList, List.reverse_append, List.lookup_append,
    Scalar.lookup_reverse_texts]
  have hset : n.attributes.any (·.1 = "id") = (n.attributes.reverse.lookup "id").isSome := by
    rw [Bool.eq_iff_iff, List.any_eq_true, List.lookup_isSome_iff]
    simp
  by_cases h : key = "id"
  · subst h
    rw [hset]
    cases n.attributes.reverse.lookup "id" <;> simp
  · have hb : (key == "id") = false := by simpa using h
    cases n.attributes.any (·.1 = "id") <;> simp [h, hb, List.lookup_cons]

theorem setAttributes_push (n : NodeOutline) (g : Graph) :
    n.setAttributes (g.push { name := n.name.getD n.id, kind := .plain }) g.size =
      .ok (g.push n.node) := by
  rw [setAttributes, Graph.setScalars_push]
  change (if _ then _ else Graph.setAttribute _ _ _ _) = _
  rw [Graph.setAttribute_push, node, texts]
  split
  · rw [List.append_nil]
    rfl
  · rw [Attributes.ofList, List.foldl_append]
    rfl

end NodeOutline

namespace IdTable

def ofIds (ids : List String) : IdTable := ids.zipIdx.reverse

variable {ids : List String} {id : String}

theorem ofIds_concat (ids : List String) (id : String) :
    ofIds (ids ++ [id]) = (id, ids.length) :: ofIds ids := by
  simp [ofIds, List.zipIdx_append]

theorem lookup_ofIds (hids : ids.Nodup) (id : String) :
    (ofIds ids).lookup id = if id ∈ ids then some (ids.idxOf id) else none := by
  rw [ofIds, Graph.lookup_reverse_zipIdx hids, Nat.zero_add]

theorem resolve_of_mem (hids : ids.Nodup) (h : id ∈ ids) :
    (ofIds ids).resolve id = .ok (ids.idxOf id) := by
  rw [resolve, lookup_ofIds hids, if_pos h]

theorem resolve_of_notMem (hids : ids.Nodup) (h : id ∉ ids) :
    (ofIds ids).resolve id = .error (.document (.unknownId id)) := by
  rw [resolve, lookup_ofIds hids, if_neg h]

end IdTable

namespace NodeOutline

variable {done pre post : List NodeOutline} {n : NodeOutline}

/-- The graph and the table when some nodes have been added. -/
def added (done : List NodeOutline) : Graph × IdTable :=
  (.ofNodes (done.map node), .ofIds (done.map NodeOutline.id))

theorem add_added_of_mem (hdone : (done.map NodeOutline.id).Nodup)
    (hid : n.id ∈ done.map NodeOutline.id) :
    add (added done) n = .error (.document (.duplicateId n.id)) := by
  have hlookup := IdTable.lookup_ofIds hdone n.id
  rw [if_pos hid] at hlookup
  simp only [add, added, hlookup]
  rfl

theorem add_added_of_notMem (hdone : (done.map NodeOutline.id).Nodup)
    (hid : n.id ∉ done.map NodeOutline.id) :
    add (added done) n = if done.length < Graph.maxNodes then .ok (added (done ++ [n]))
      else .error (.contract (.graphFull done.length)) := by
  have hlookup := IdTable.lookup_ofIds hdone n.id
  rw [if_neg hid] at hlookup
  have hadd : add (added done) n =
      ((Graph.ofNodes (done.map node)).add (n.name.getD n.id) .plain >>= fun p =>
        n.setAttributes p.1 p.2 >>= fun g =>
          pure (g, (n.id, p.2) :: IdTable.ofIds (done.map NodeOutline.id))) := by
    simp only [add, added, hlookup]
    rfl
  have hsize : (Graph.ofNodes (done.map node)).size = done.length := by simp
  rw [hadd]
  split
  · next hroom =>
    rw [Graph.add_eq_ok_iff.2 ⟨by rwa [hsize], rfl⟩]
    change (n.setAttributes _ _ >>= _) = _
    rw [setAttributes_push, Graph.push_ofNodes, added, List.map_append, List.map_append]
    change Except.ok (_, _) = _
    rw [List.map_singleton, List.map_singleton, IdTable.ofIds_concat, hsize, List.length_map]
  · next hfull =>
    rw [Graph.add_of_full (by rw [hsize]; exact Nat.not_lt.1 hfull), hsize]
    rfl

theorem foldlM_add (hdone : (done.map NodeOutline.id).Nodup)
    (hroom : done.length ≤ Graph.maxNodes) :
    done.foldlM add (.empty, []) = .ok (added done) := by
  induction done using List.reverseRecOn with
  | nil => rfl
  | append_singleton done n ih =>
    rw [List.map_append, List.map_singleton, List.nodup_append] at hdone
    rw [List.length_append, List.length_singleton] at hroom
    have hid : n.id ∉ done.map NodeOutline.id := fun h => hdone.2.2 _ h _ List.mem_cons_self rfl
    rw [List.foldlM_append, ih hdone.1 (Nat.le_of_succ_le hroom)]
    change [n].foldlM add (added done) = _
    rw [List.foldlM_cons, add_added_of_notMem hdone.1 hid, if_pos (Nat.lt_of_succ_le hroom)]
    rfl

theorem foldlM_add_of_error (hpre : (pre.map NodeOutline.id).Nodup)
    (hroom : pre.length ≤ Graph.maxNodes) {e : Error} (h : add (added pre) n = .error e) :
    (pre ++ n :: post).foldlM add (.empty, []) = .error e := by
  rw [List.foldlM_append, foldlM_add hpre hroom]
  change (n :: post).foldlM add (added pre) = _
  rw [List.foldlM_cons, h]
  rfl

/-- Adding nodes ends with the last of them, or stops at one whose identifier stands before it too, or
at a new one for which there is no room. -/
theorem added_or_stop (nodes : List NodeOutline) :
    (nodes.map NodeOutline.id).Nodup ∧ nodes.length ≤ Graph.maxNodes ∨
      ∃ pre n post, nodes = pre ++ n :: post ∧ (pre.map NodeOutline.id).Nodup ∧
        pre.length ≤ Graph.maxNodes ∧
        (n.id ∈ pre.map NodeOutline.id ∨
          n.id ∉ pre.map NodeOutline.id ∧ pre.length = Graph.maxNodes) := by
  induction nodes using List.reverseRecOn with
  | nil => exact .inl ⟨List.nodup_nil, Nat.zero_le _⟩
  | append_singleton nodes n ih =>
    rcases ih with ⟨hids, hroom⟩ | ⟨pre, m, post, rfl, hstop⟩
    · by_cases hid : n.id ∈ nodes.map NodeOutline.id
      · exact .inr ⟨nodes, n, [], rfl, hids, hroom, .inl hid⟩
      rcases Nat.lt_or_eq_of_le hroom with hlt | hfull
      · refine .inl ⟨?_, by rwa [List.length_append]⟩
        rw [List.map_append, List.map_singleton, ← List.concat_eq_append, List.nodup_concat]
        exact ⟨hid, hids⟩
      · exact .inr ⟨nodes, n, [], rfl, hids, hroom, .inr ⟨hid, hfull⟩⟩
    · exact .inr ⟨pre, m, post ++ [n], by simp, hstop⟩

end NodeOutline

namespace GraphOutline

variable {o : GraphOutline}

def ids (o : GraphOutline) : List String := o.nodes.map NodeOutline.id

/-- A node with the nodes that its links name, each once. -/
def linked (o : GraphOutline) (n : NodeOutline) : Node :=
  { n.node with neighbors := (n.links.map o.ids.idxOf).eraseDups }

theorem idxOf_lt {id : String} (h : id ∈ o.ids) : o.ids.idxOf id < o.nodes.length := by
  have hlt := List.idxOf_lt_length_of_mem h
  rwa [ids, List.length_map] at hlt

/-- Linking one node ends at the first link that names no node. -/
theorem foldlM_connect (hids : o.ids.Nodup) (done rest : List Node) {n : Node}
    (hkind : n.kind = .plain) (hlength : done.length + rest.length + 1 = o.nodes.length)
    (targets : List NodeId) (links : List String) :
    links.foldlM
        (fun (g : Graph) l => do g.connect done.length (← (IdTable.ofIds o.ids).resolve l))
        (.ofNodes (done ++ { n with neighbors := targets.eraseDups } :: rest)) =
      match links.find? (· ∉ o.ids) with
      | some l => .error (.document (.unknownId l))
      | none => .ok (.ofNodes (done ++
          { n with neighbors := (targets ++ links.map o.ids.idxOf).eraseDups } :: rest)) := by
  induction links generalizing targets with
  | nil => rw [List.map_nil, List.append_nil]; rfl
  | cons l links ih =>
    rw [List.foldlM_cons]
    by_cases hl : l ∈ o.ids
    · have ht : o.ids.idxOf l < done.length + rest.length + 1 := hlength ▸ idxOf_lt hl
      have hstep := Graph.connect_ofNodes done rest hkind targets ht
      rw [IdTable.resolve_of_mem hids hl, List.find?_cons_of_neg (by simpa using hl), List.map_cons,
        List.append_cons targets _ (links.map o.ids.idxOf)]
      change (Graph.connect _ _ _ >>= _) = _
      rw [hstep]
      exact ih _
    · rw [IdTable.resolve_of_notMem hids hl, List.find?_cons_of_pos (by simpa using hl)]
      rfl

theorem foldlM_link (hids : o.ids.Nodup) {done todo : List NodeOutline}
    (h : o.nodes = done ++ todo) :
    todo.foldlM (NodeOutline.link (.ofIds o.ids))
        (.ofNodes (done.map o.linked ++ todo.map NodeOutline.node)) =
      match (todo.flatMap NodeOutline.links).find? (· ∉ o.ids) with
      | some l => .error (.document (.unknownId l))
      | none => .ok (.ofNodes (done.map o.linked ++ todo.map o.linked)) := by
  induction todo generalizing done with
  | nil => rfl
  | cons n rest ih =>
    have hids' : o.ids = done.map NodeOutline.id ++ n.id :: rest.map NodeOutline.id := by
      rw [ids, h, List.map_append, List.map_cons]
    have hnew : n.id ∉ done.map NodeOutline.id := by
      rw [hids', List.nodup_append] at hids
      exact fun hmem => hids.2.2 _ hmem _ List.mem_cons_self rfl
    have hsource : o.ids.idxOf n.id = (done.map o.linked).length := by
      rw [hids', List.idxOf_append_of_notMem hnew, List.idxOf_cons_self, List.length_map,
        List.length_map, Nat.add_zero]
    have hresolve : (IdTable.ofIds o.ids).resolve n.id = .ok (done.map o.linked).length := by
      rw [← hsource]
      exact IdTable.resolve_of_mem hids (by simp [hids'])
    have hlink := foldlM_connect hids (done.map o.linked) (rest.map NodeOutline.node) (n := n.node)
      rfl (by simp [h, Nat.add_assoc]) [] n.links
    have hstart : n.node = { n.node with neighbors := ([] : List NodeId).eraseDups } := rfl
    rw [List.foldlM_cons, NodeOutline.link, hresolve, List.map_cons, List.flatMap_cons,
      List.find?_append, hstart]
    change (List.foldlM _ _ _ >>= _) = _
    rw [hlink]
    cases n.links.find? (· ∉ o.ids) with
    | some l => rfl
    | none =>
      have hrest := @ih (done ++ [n]) (by rw [h, List.append_cons])
      rw [List.map_append, List.append_assoc, List.append_assoc] at hrest
      exact hrest

structure Sound (o : GraphOutline) : Prop where
  nodes_ne_nil : o.nodes ≠ []
  ids_nodup : o.ids.Nodup
  length_le : o.nodes.length ≤ Graph.maxNodes
  link_mem : ∀ n ∈ o.nodes, ∀ l ∈ n.links, l ∈ o.ids
  origin_mem : ∀ id, o.origin = some id → id ∈ o.ids

/-- The first thing that is wrong with a document: that it has no nodes, or else the first node whose
identifier stands before it too or for which there is no room, or else the first link that names no
node, by nodes and then by their links, or else the origin. -/
inductive FirstFault (o : GraphOutline) : Error → Prop
  | noNodes (h : o.nodes = []) : FirstFault o (.document .noNodes)
  | duplicateId {pre post : List NodeOutline} {n : NodeOutline} (h : o.nodes = pre ++ n :: post)
      (hpre : (pre.map NodeOutline.id).Nodup) (hroom : pre.length ≤ Graph.maxNodes)
      (hid : n.id ∈ pre.map NodeOutline.id) : FirstFault o (.document (.duplicateId n.id))
  | full {pre post : List NodeOutline} {n : NodeOutline} (h : o.nodes = pre ++ n :: post)
      (hpre : (pre.map NodeOutline.id).Nodup) (hfull : pre.length = Graph.maxNodes)
      (hid : n.id ∉ pre.map NodeOutline.id) : FirstFault o (.contract (.graphFull pre.length))
  | unknownLink {pre post : List String} {link : String} (hids : o.ids.Nodup)
      (hroom : o.nodes.length ≤ Graph.maxNodes)
      (h : o.nodes.flatMap NodeOutline.links = pre ++ link :: post)
      (hpre : ∀ l ∈ pre, l ∈ o.ids) (hlink : link ∉ o.ids) :
      FirstFault o (.document (.unknownId link))
  | unknownOrigin {id : String} (hne : o.nodes ≠ []) (hids : o.ids.Nodup)
      (hroom : o.nodes.length ≤ Graph.maxNodes)
      (hlinks : ∀ n ∈ o.nodes, ∀ l ∈ n.links, l ∈ o.ids) (h : o.origin = some id)
      (hid : id ∉ o.ids) : FirstFault o (.document (.unknownId id))

def document (o : GraphOutline) : Document :=
  ⟨.ofNodes (o.nodes.map o.linked), (o.origin.map o.ids.idxOf).getD 0⟩

theorem build_of_ne_nil (hne : o.nodes ≠ []) :
    o.build = (o.nodes.foldlM NodeOutline.add (.empty, []) >>= fun s =>
      o.nodes.foldlM (NodeOutline.link s.2) s.1 >>= fun g =>
        match o.origin with
        | some id => s.2.resolve id >>= fun n => pure ⟨g, n⟩
        | none => pure ⟨g, 0⟩) := by
  have hempty : o.nodes.isEmpty = false := by simpa using hne
  simp only [build, hempty]
  rfl

/-- When all nodes have been added, the links and the origin are checked in turn. -/
theorem build_eq (hne : o.nodes ≠ []) (hids : o.ids.Nodup)
    (hroom : o.nodes.length ≤ Graph.maxNodes) :
    o.build = match (o.nodes.flatMap NodeOutline.links).find? (· ∉ o.ids) with
      | some l => .error (.document (.unknownId l))
      | none => match o.origin.filter (· ∉ o.ids) with
        | some id => .error (.document (.unknownId id))
        | none => .ok o.document := by
  have hlink := foldlM_link hids (List.nil_append o.nodes).symm
  rw [build_of_ne_nil hne, NodeOutline.foldlM_add hids hroom]
  change (o.nodes.foldlM (NodeOutline.link (.ofIds o.ids)) (.ofNodes (o.nodes.map NodeOutline.node))
    >>= _) = _
  rw [List.map_nil, List.nil_append, List.nil_append] at hlink
  rw [hlink]
  cases (o.nodes.flatMap NodeOutline.links).find? (· ∉ o.ids) with
  | some l => rfl
  | none =>
    unfold document
    cases o.origin with
    | none => rfl
    | some id =>
      change ((IdTable.ofIds o.ids).resolve id >>= _) = _
      by_cases hid : id ∈ o.ids
      · rw [IdTable.resolve_of_mem hids hid]
        simp [Option.filter, hid, bind, Except.bind, pure, Except.pure]
      · rw [IdTable.resolve_of_notMem hids hid]
        simp [Option.filter, hid, bind, Except.bind]

theorem build_of_error {pre post : List NodeOutline} {n : NodeOutline}
    (h : o.nodes = pre ++ n :: post) (hpre : (pre.map NodeOutline.id).Nodup)
    (hroom : pre.length ≤ Graph.maxNodes) {e : Error}
    (hadd : NodeOutline.add (NodeOutline.added pre) n = .error e) : o.build = .error e := by
  rw [build_of_ne_nil (by simp [h]), h, NodeOutline.foldlM_add_of_error hpre hroom hadd]
  rfl

theorem unknownLink_eq_none_iff :
    (o.nodes.flatMap NodeOutline.links).find? (· ∉ o.ids) = none ↔
      ∀ n ∈ o.nodes, ∀ l ∈ n.links, l ∈ o.ids := by
  simp only [List.find?_eq_none, List.mem_flatMap, decide_not, Bool.not_eq_true',
    decide_eq_false_iff_not, not_not, forall_exists_index, and_imp]
  exact ⟨fun h n hn l hl => h l n hn hl, fun h l n hn hl => h n hn l hl⟩

theorem build_of_sound (h : o.Sound) : o.build = .ok o.document := by
  have horigin : o.origin.filter (· ∉ o.ids) = none := by
    rw [Option.filter_eq_none_iff]
    intro id hid
    simpa using h.origin_mem id hid
  rw [build_eq h.nodes_ne_nil h.ids_nodup h.length_le, unknownLink_eq_none_iff.2 h.link_mem]
  dsimp only
  rw [horigin]

theorem build_of_firstFault {e : Error} (h : o.FirstFault e) : o.build = .error e := by
  cases h with
  | noNodes h =>
    simp only [build, h]
    rfl
  | duplicateId h hpre hroom hid =>
    exact build_of_error h hpre hroom (NodeOutline.add_added_of_mem hpre hid)
  | @full pre post n h hpre hfull hid =>
    refine build_of_error h hpre (Nat.le_of_eq hfull) ?_
    rw [NodeOutline.add_added_of_notMem hpre hid, if_neg (by rw [hfull]; exact Nat.lt_irrefl _)]
  | @unknownLink pre post link hids hroom h hpre hlink =>
    have hne : o.nodes ≠ [] := by
      intro e
      rw [e] at h
      cases pre <;> cases h
    have hfind : (o.nodes.flatMap NodeOutline.links).find? (· ∉ o.ids) = some link :=
      List.find?_eq_some_iff_append.2 ⟨by simpa using hlink, pre, post, h, by simpa using hpre⟩
    rw [build_eq hne hids hroom, hfind]
  | @unknownOrigin id hne hids hroom hlinks h hid =>
    rw [build_eq hne hids hroom, unknownLink_eq_none_iff.2 hlinks, h]
    simp [Option.filter, hid]

/-- A document in which not all is well has something that is wrong first. -/
theorem sound_or_firstFault (o : GraphOutline) : o.Sound ∨ ∃ e, o.FirstFault e := by
  by_cases hne : o.nodes = []
  · exact .inr ⟨_, .noNodes hne⟩
  rcases NodeOutline.added_or_stop o.nodes with
    ⟨hids, hroom⟩ | ⟨pre, n, post, h, hpre, hroom, hid | ⟨hid, hfull⟩⟩
  · cases hfind : (o.nodes.flatMap NodeOutline.links).find? (· ∉ o.ids) with
    | some link =>
      obtain ⟨hlink, pre, post, h, hpre⟩ := List.find?_eq_some_iff_append.1 hfind
      exact .inr ⟨_, .unknownLink hids hroom h (by simpa using hpre) (by simpa using hlink)⟩
    | none =>
      have hlinks := unknownLink_eq_none_iff.1 hfind
      by_cases horigin : ∀ id, o.origin = some id → id ∈ o.ids
      · exact .inl ⟨hne, hids, hroom, hlinks, horigin⟩
      · obtain ⟨id, h, hid⟩ : ∃ id, o.origin = some id ∧ id ∉ o.ids := by
          simpa using horigin
        exact .inr ⟨_, .unknownOrigin hne hids hroom hlinks h hid⟩
  · exact .inr ⟨_, .duplicateId h hpre hroom hid⟩
  · exact .inr ⟨_, .full h hpre hfull hid⟩

theorem FirstFault.exists_document {e : Error} (h : o.FirstFault e)
    (hroom : o.nodes.length ≤ Graph.maxNodes) : ∃ fault, e = .document fault := by
  cases h with
  | noNodes | duplicateId | unknownLink | unknownOrigin => exact ⟨_, rfl⟩
  | full h _ hfull =>
    rw [h, List.length_append, List.length_cons] at hroom
    omega

/-- A document of nodes and links loads exactly when all is well with it, and is otherwise refused
for the first thing that is wrong, which is a fault of the document unless it has more nodes than a
graph holds. The nodes of its graph are those of the document in their order; each is a plain node
that carries the name or else the identifier, the attributes as texts with the identifier among
them, and links to the nodes that the links name, each once. Queries start from the node that the
document names, or else from the first one. -/
theorem build_ok_iff_sound (o : GraphOutline) :
    ((∃ d, o.build = .ok d) ↔ o.Sound) ∧
      (∀ e, o.build = .error e ↔ o.FirstFault e) ∧
      (o.nodes.length ≤ Graph.maxNodes →
        ∀ e, o.build = .error e → ∃ fault, e = .document fault) ∧
      ∀ d, o.build = .ok d →
        d.graph.size = o.nodes.length ∧
        (∀ i n, o.nodes[i]? = some n → ∃ node, d.graph.get? i = some node ∧
          node.kind = .plain ∧ node.name = n.name.getD n.id ∧
          (∀ key, node.attributes.get? key =
            ((n.attributes.reverse.lookup key).map Scalar.render).or
              (if key = "id" then some n.id else none)) ∧
          node.neighbors = (n.links.map o.ids.idxOf).eraseDups ∧
          node.parent = none ∧ node.index = none ∧ node.level = 0) ∧
        d.origin = (o.origin.map o.ids.idxOf).getD 0 := by
  have hok : ∀ d, o.build = .ok d → o.Sound ∧ d = o.document := by
    intro d hd
    rcases sound_or_firstFault o with h | ⟨e, h⟩
    · rw [build_of_sound h] at hd
      exact ⟨h, (Except.ok.inj hd).symm⟩
    · rw [build_of_firstFault h] at hd
      cases hd
  have herror : ∀ e, o.build = .error e → o.FirstFault e := by
    intro e he
    rcases sound_or_firstFault o with h | ⟨e', h⟩
    · rw [build_of_sound h] at he
      cases he
    · rw [build_of_firstFault h] at he
      exact Except.error.inj he ▸ h
  refine ⟨⟨fun ⟨d, hd⟩ => (hok d hd).1, fun h => ⟨_, build_of_sound h⟩⟩,
    fun e => ⟨herror e, build_of_firstFault⟩, fun hroom e he => (herror e he).exists_document hroom,
    fun d hd => ?_⟩
  obtain ⟨-, rfl⟩ := hok d hd
  refine ⟨by simp [document], fun i n hn => ?_, rfl⟩
  exact ⟨o.linked n, by simp [document, hn], rfl, rfl, n.get?_texts, rfl, rfl, rfl, rfl⟩

/-- A document of nodes without links, whose identifiers are their places. -/
def numbered (count : Nat) : GraphOutline where
  nodes := (List.range count).map fun i => { id := Nat.repr i }

theorem length_numbered (count : Nat) : (numbered count).nodes.length = count := by
  rw [numbered, List.length_map, List.length_range]

theorem nodup_ids_numbered (count : Nat) : (numbered count).ids.Nodup := by
  rw [ids, numbered, List.map_map]
  refine List.nodup_range.map fun i j (h : Nat.repr i = Nat.repr j) => ?_
  have hdigits : Nat.toDigits 10 i = Nat.toDigits 10 j := by
    rw [← Nat.toList_repr, h, Nat.toList_repr]
  rw [← Nat.ofDigitChars_ten_toDigits (n := i), hdigits, Nat.ofDigitChars_ten_toDigits]

theorem build_numbered {count : Nat} (h : Graph.maxNodes < count) :
    (numbered count).build = .error (.contract (.graphFull Graph.maxNodes)) := by
  have hlength := length_numbered count
  have hids := nodup_ids_numbered count
  obtain ⟨e, he⟩ := (sound_or_firstFault (numbered count)).resolve_left fun hs =>
    Nat.not_le.2 h (hlength ▸ hs.length_le)
  rw [build_of_firstFault he]
  cases he with
  | noNodes hnone =>
    rw [hnone] at hlength
    exact absurd hlength.symm (Nat.ne_of_gt (Nat.zero_lt_of_lt h))
  | duplicateId hnodes hpre hroom hid =>
    rw [ids, hnodes, List.map_append, List.nodup_append] at hids
    exact absurd rfl (hids.2.2 _ hid _ List.mem_cons_self)
  | full _ _ hfull => rw [hfull]
  | unknownLink _ hroom | unknownOrigin _ _ hroom =>
    exact absurd (hlength ▸ hroom) (Nat.not_le.2 h)

/-- Nothing is wrong with these documents but that they have more nodes than a graph holds. -/
theorem numbered_of_overfull {count : Nat} (h : Graph.maxNodes < count) :
    (numbered count).nodes ≠ [] ∧ (numbered count).ids.Nodup ∧
      (∀ n ∈ (numbered count).nodes, n.links = []) ∧ (numbered count).origin = none ∧
      (numbered count).build = .error (.contract (.graphFull Graph.maxNodes)) := by
  refine ⟨?_, nodup_ids_numbered count, ?_, rfl, build_numbered h⟩
  · rw [← List.length_pos_iff, length_numbered]
    exact Nat.zero_lt_of_lt h
  · intro n hn
    obtain ⟨i, -, rfl⟩ := List.mem_map.1 hn
    rfl

theorem build_overfull :
    (numbered 4294967296).nodes ≠ [] ∧ (numbered 4294967296).ids.Nodup ∧
      (∀ n ∈ (numbered 4294967296).nodes, n.links = []) ∧
      (numbered 4294967296).origin = none ∧
      (numbered 4294967296).build = .error (.contract (.graphFull 4294967295)) :=
  numbered_of_overfull (by decide)

/-- A repeated identifier comes before a link to nowhere that stands in front of it. -/
example : build ⟨[{ id := "a", links := ["b"] }, { id := "a" }], some "c"⟩ =
    .error (.document (.duplicateId "a")) := by decide

end GraphOutline

end GraphSelect
