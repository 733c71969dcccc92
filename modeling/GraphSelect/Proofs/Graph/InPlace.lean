import GraphSelect.Proofs.Graph.Built

/-!
# Edits in place

A graph in memory is changed node by node, and an edit that is refused on the way would leave behind
what it has written by then. Here every edit is such a run: it looks at nodes, checks and writes one
after the other, and a failure takes nothing back. Still each run ends as the edit says that gives a
new graph: a run that succeeds leaves that graph, and one that is refused leaves the graph that it
found, since no check comes behind a write.
-/
namespace GraphSelect

/-- A run that reads and changes a graph. When it fails, the graph stays as it is at that moment. -/
abbrev InPlace (α : Type) := ExceptT Error (StateM Graph) α

namespace InPlace

def runOn {α : Type} (m : InPlace α) (g : Graph) : Except Error α × Graph :=
  (ExceptT.run m).run g

def look (id : NodeId) : InPlace Node := ExceptT.mk fun g => (g.find id, g)

def write (id : NodeId) (f : Node → Node) : InPlace Unit := modify (·.modify id f)

def add (name : String) (kind : Kind) : InPlace Unit := do
  let _ ← ExceptT.mk fun g => (Graph.nextId g.size, g)
  modify (·.push { name, kind })

def setAttribute (id : NodeId) (key value : String) : InPlace Unit := do
  let _ ← look id
  write id fun n => { n with attributes := n.attributes.insert key value }

def removeAttribute (id : NodeId) (key : String) : InPlace Unit := do
  let _ ← look id
  write id fun n => { n with attributes := n.attributes.erase key }

def connect (source target : NodeId) : InPlace Unit := do
  let _ ← look target
  let n ← look source
  if n.kind.isTree then throw (.contract (.linkFromTree source))
  if n.neighbors.contains target then return
  write source fun n => { n with neighbors := n.neighbors ++ [target] }

def insertChild (parent : NodeId) (position : Nat) (child : NodeId) : InPlace Unit := do
  let p ← look parent
  let c ← look child
  if !p.kind.isTree || !c.kind.isTree then throw (.contract (.notTrees parent child))
  if parent = child then throw (.contract (.ownChild child))
  if let some other := c.parent then throw (.contract (.hasParent child other))
  if let some max := p.kind.maxChildren then
    if p.neighbors.length ≥ max then
      throw (.contract (.tooManyChildren parent p.neighbors.length max))
  if position > p.neighbors.length then
    throw (.contract (.positionOutOfRange position parent p.neighbors.length))
  if ((← get).ancestors parent).contains child then throw (.contract (.ancestor child parent))
  write parent fun n => { n with neighbors := n.neighbors.insertIdx position child }
  write child fun n => { n with parent := some parent }
  modify (·.reindex parent position)
  modify (·.setSubtreeLevel child (p.level + 1))

def addChild (parent child : NodeId) : InPlace Unit := do
  let p ← look parent
  insertChild parent p.neighbors.length child

def removeChild (parent child : NodeId) : InPlace Unit := do
  let _ ← look parent
  let c ← look child
  if c.parent ≠ some parent then throw (.contract (.notAChild child parent))
  match c.index with
  | none => throw (.missingIndex child)
  | some position =>
    write parent fun n => { n with neighbors := n.neighbors.eraseIdx position }
    write child fun n => { n with parent := none, index := none }
    modify (·.reindex parent position)
    modify (·.setSubtreeLevel child 0)

def detach (id : NodeId) : InPlace Unit := do
  match (← look id).parent with
  | some parent => removeChild parent id
  | none => return

end InPlace

/-- The run of one call. -/
def Edit.perform : Edit → InPlace Unit
  | add name kind => InPlace.add name kind
  | setAttribute id key value | withAttribute id key value => InPlace.setAttribute id key value
  | removeAttribute id key => InPlace.removeAttribute id key
  | connect source target => InPlace.connect source target
  | addChild parent child => InPlace.addChild parent child
  | insertChild parent position child => InPlace.insertChild parent position child
  | removeChild parent child => InPlace.removeChild parent child
  | detach id => InPlace.detach id

namespace InPlace

variable {g h : Graph} {parent child id : NodeId}

/-- A run on a graph leaves the new graph, or fails and leaves the graph itself. -/
def Follows (g : Graph) (m : InPlace Unit) (r : Except Error Graph) : Prop :=
  m.runOn g = match r with
    | .ok h => (.ok (), h)
    | .error e => (.error e, g)

theorem follows_look {f : Node → InPlace Unit} {f' : Node → Except Error Graph}
    (h : ∀ n, Follows g (f n) (f' n)) : Follows g (look id >>= f) (g.find id >>= f') := by
  have hrun : (look id >>= f).runOn g = ExceptT.bindCont f (g.find id) g := rfl
  unfold Follows
  rw [hrun]
  cases g.find id with
  | error e => rfl
  | ok n => exact h n

theorem follows_check {α β : Type} {c : Prop} [Decidable c] {e : Error} {f : α → InPlace Unit}
    {f' : β → Except Error Graph} {m : InPlace Unit} {r : Except Error Graph} (h : Follows g m r) :
    Follows g (if c then (throw e : InPlace α) >>= f else m)
      (if c then (throw e : Except Error β) >>= f' else r) := by
  split
  · rfl
  · exact h

/-- Looking at the graph as a whole shows the graph of the start as long as nothing is written. -/
theorem follows_get {f : Graph → InPlace Unit} {r : Except Error Graph} (h : Follows g (f g) r) :
    Follows g (get >>= f) r := h

theorem follows_room {α β : Type} {kind : Kind} {count : Nat} {e : Nat → Error}
    {f : α → InPlace Unit} {f' : β → Except Error Graph} {m : InPlace Unit}
    {r : Except Error Graph} (h : Follows g m r) :
    Follows g
      (match kind.maxChildren with
        | some max => if count ≥ max then (throw (e max) : InPlace α) >>= f else m
        | _ => m)
      (match kind.maxChildren with
        | some max => if count ≥ max then (throw (e max) : Except Error β) >>= f' else r
        | _ => r) := by
  cases kind with
  | binary => exact follows_check h
  | plain | tree => exact h

theorem follows_add (name : String) (kind : Kind) :
    Follows g (add name kind) ((g.add name kind).map Prod.fst) := by
  have hrun : (add name kind).runOn g =
      ExceptT.bindCont (fun _ : NodeId => (modify (·.push { name, kind }) : InPlace Unit))
        (Graph.nextId g.size) g := rfl
  unfold Follows Graph.add
  rw [hrun]
  cases Graph.nextId g.size <;> rfl

theorem follows_setAttribute (key value : String) :
    Follows g (setAttribute id key value) (g.setAttribute id key value) :=
  follows_look fun _ => rfl

theorem follows_removeAttribute (key : String) :
    Follows g (removeAttribute id key) ((g.removeAttribute id key).map Prod.fst) := by
  have hedit : (g.removeAttribute id key).map Prod.fst =
      (g.find id >>= fun _ => pure (g.modify id fun n =>
        { n with attributes := n.attributes.erase key })) := by
    unfold Graph.removeAttribute
    cases g.find id <;> rfl
  rw [hedit]
  exact follows_look fun _ => rfl

theorem follows_connect (source target : NodeId) :
    Follows g (connect source target) (g.connect source target) := by
  refine follows_look fun _ => follows_look fun n => follows_check ?_
  cases n.neighbors.contains target <;> rfl

theorem follows_insertChild (position : Nat) :
    Follows g (insertChild parent position child) (g.insertChild parent position child) := by
  refine follows_look fun _ => follows_look fun c => follows_check (follows_check ?_)
  cases c.parent with
  | some other => rfl
  | none => exact follows_room (follows_check (follows_get (follows_check rfl)))

theorem follows_removeChild :
    Follows g (removeChild parent child) (g.removeChild parent child) := by
  refine follows_look fun _ => follows_look fun c => follows_check ?_
  cases c.index with
  | none => rfl
  | some position => rfl

theorem follows_detach : Follows g (detach id) (g.detach id) := by
  refine follows_look fun n => ?_
  cases n.parent with
  | none => rfl
  | some parent => exact follows_removeChild

/-- Every run ends as its edit says: no failure leaves anything changed. -/
theorem follows_perform (g : Graph) (e : Edit) : Follows g e.perform (e.run g) := by
  cases e with
  | add name kind => exact follows_add name kind
  | setAttribute id key value => exact follows_setAttribute key value
  | withAttribute id key value =>
    rw [Edit.run, Graph.map_fst_withAttribute]
    exact follows_setAttribute key value
  | removeAttribute id key => exact follows_removeAttribute key
  | connect source target => exact follows_connect source target
  | addChild parent child => exact follows_look fun _ => follows_insertChild _
  | insertChild parent position child => exact follows_insertChild position
  | removeChild parent child => exact follows_removeChild
  | detach id => exact follows_detach

theorem runOn_perform_of_ok {e : Edit} (hrun : e.run g = .ok h) :
    e.perform.runOn g = (.ok (), h) := by
  have hfollows := follows_perform g e
  rw [hrun] at hfollows
  exact hfollows

theorem runOn_perform_of_error {e : Edit} {err : Error} (hrun : e.run g = .error err) :
    e.perform.runOn g = (.error err, g) := by
  have hfollows := follows_perform g e
  rw [hrun] at hfollows
  exact hfollows

end InPlace

end GraphSelect
