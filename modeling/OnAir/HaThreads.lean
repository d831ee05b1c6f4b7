import OnAir.HaGroup

/-!
One node against everything that may be asked of it.

What a step of the group does to the node that takes it depends on nothing but that node: the
others only decide which requests arrive and which of its own are accepted. So a property of
one node is proved for the node by itself, which may receive any request and find any of its
own accepted, and it then holds of that node in every run of the group.
-/

namespace OnAir.HaThreads

open HaNode HaGroup Runs

variable (cfg : Config)

/-- One step of node `v`, whose threads and handlers take turns. -/
def nodeStep (v : Voter) (n : Node) (a : Act) : Option Node :=
  match a.op with
  | .restart => some n.restart
  | .send =>
    match n.run with
    | .posting p =>
      match p.todo, p.asking with
      | _ :: _, false => some { n with run := .posting { p with asking := true } }
      | _, _ => none
    | _ => none
  | .collect =>
    match n.run with
    | .posting p =>
      match p.todo, p.asking with
      | dst :: rest, true =>
        some { n with
          run := .posting { p with todo := rest, asking := false, acked := dst :: p.acked } }
      | _, _ => none
    | _ => none
  | .receive x =>
    match firstStage n a.now x with
    | some stage => some { n with handlers := ⟨x, stage⟩ :: n.handlers }
    | none => some n
  | .advance h =>
    if h ∈ n.handlers then
      match serve cfg n a.mono h with
      | some (n', some stage) =>
        some { n' with handlers := ⟨h.request, stage⟩ :: n.handlers.erase h }
      | some (n', none) => some { n' with handlers := n.handlers.erase h }
      | none => none
    else none
  | .watchCheck | .watchClear | .watchFence | .watchPersist => watchStep n a
  | _ => runStep cfg v n a

/-! ### What one step can do -/

/-- The steps of a node, by the thread that moves. -/
inductive Turn (v : Voter) (n : Node) (a : Act) : Node → Prop
  | restart (hop : a.op = .restart) : Turn v n a n.restart
  | send {p : Post} (hop : a.op = .send) (hp : n.run = .posting p) :
      Turn v n a { n with run := .posting { p with asking := true } }
  | collect {p : Post} {dst : Voter} {rest : List Voter} (hop : a.op = .collect)
      (hp : n.run = .posting p) (ht : p.todo = dst :: rest) :
      Turn v n a { n with
        run := .posting { p with todo := rest, asking := false, acked := dst :: p.acked } }
  | refuse {x : Request} (hop : a.op = .receive x) (hx : firstStage n a.now x = none) :
      Turn v n a n
  | receive {x : Request} {stage : Stage} (hop : a.op = .receive x)
      (hx : firstStage n a.now x = some stage) :
      Turn v n a { n with handlers := ⟨x, stage⟩ :: n.handlers }
  | advance {hd : Handler} {n' : Node} {stage : Stage} (hop : a.op = .advance hd)
      (hmem : hd ∈ n.handlers) (hn : serve cfg n a.mono hd = some (n', some stage)) :
      Turn v n a { n' with handlers := ⟨hd.request, stage⟩ :: n.handlers.erase hd }
  | answer {hd : Handler} {n' : Node} (hop : a.op = .advance hd) (hmem : hd ∈ n.handlers)
      (hn : serve cfg n a.mono hd = some (n', none)) :
      Turn v n a { n' with handlers := n.handlers.erase hd }
  | watch {n' : Node} (hn : watchStep n a = some n') : Turn v n a n'
  | run {n' : Node} (hn : runStep cfg v n a = some n') : Turn v n a n'

variable {cfg} {v : Voter} {n n' : Node} {a : Act}

theorem turn_of_nodeStep (h : nodeStep cfg v n a = some n') : Turn cfg v n a n' := by
  revert h
  fun_cases nodeStep cfg v n a <;> intro h
  case case1 hop => cases h; exact .restart hop
  case case2 hop p hp _ _ _ _ => cases h; exact .send hop hp
  case case5 hop p hp dst rest _ ht => cases h; exact .collect hop hp ht
  case case8 x hop stage hs => cases h; exact .receive hop hs
  case case9 x hop hs => cases h; exact .refuse hop hs
  case case10 hd hop hm m stage hn => cases h; exact .advance hop hm hn
  case case11 hd hop hm m hn => cases h; exact .answer hop hm hn
  case case18 => exact .run h
  all_goals first | exact .watch h | cases h

end OnAir.HaThreads
