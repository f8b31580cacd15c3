import RcDiscover.Socket.Interfaces

/-!
# The sockets that are returned

What `createAndBindForAllInterfaces` returns, for the list of `getifaddrs` that it got: three
sockets for each interface that it takes, in the order of the list.  Growing the vector moves them
all, so this is about the objects after the moves, not about those that were made.

* `Planned`: a socket as it is asked for, and `plan` the ones for a list of interfaces;
* `Known`: numbers of objects with what the objects are;
* `Elements`: the vector in the middle of the loop.

`createAndBind_elements` (**main result**): the sockets that are returned are those of the plan, and
an exception is that of a system call for one of them.
-/

namespace RcDiscover
namespace Sockets

open Program Runs

/-! ### The plan -/

/-- A socket as it is asked for. -/
structure Planned where
  ifaceName : Str
  dstAddr : SockAddrIn
  boundTo : SockAddrIn
  deriving DecidableEq, Repr

/-- What an entry of the list says about an interface that gets sockets: its name, its address and
its broadcast address. -/
def IfAddrs.taken (entry : IfAddrs) : Option (Str × SockAddrIn × SockAddrIn) :=
  match entry.ifaName, entry.ifaAddr, entry.ifaBroadaddr with
  | some name, some addr, some baddr =>
    if entry.ifaFlags &&& iffUp ≠ 0 ∧ addr.sinFamily = afInet ∧ name.length ≠ 0 ∧
        name ≠ "lo".toList then
      some (name, addr, baddr)
    else none
  | _, _, _ => none

section Plan

variable (env : InterfaceEnv) (port : UInt16)

/-- The sockets for an interface, the first of which is made after `n` others. -/
def planFor (n : ℕ) (name : Str) (addr baddr : SockAddrIn) : List Planned :=
  let localPort := (env.getsockname n).sinPort
  [⟨name, destination getBroadcastAddr port, ⟨afInet, 0, addr.sAddr⟩⟩,
    ⟨name, destination inaddrAny port, ⟨afInet, localPort, inaddrAny⟩⟩,
    ⟨name, destination baddr.sAddr port, ⟨afInet, localPort, inaddrAny⟩⟩]

/-- The sockets for a list of interfaces, made after `n` others. -/
def plan : ℕ → List IfAddrs → List Planned
  | _, [] => []
  | n, entry :: addrs =>
    match entry.taken with
    | some (name, addr, baddr) => planFor env port n name addr baddr ++ plan (n + 3) addrs
    | none => plan n addrs

end Plan

/-- A socket that is there serves as it was asked for. -/
structure Serves (p : Planned) (obj : SocketObject ℤ) : Prop where
  ifaceName : obj.ifaceName = p.ifaceName
  dstAddr : obj.dstAddr = p.dstAddr
  sock : obj.sock ≠ -1

/-- Why the socket that is made after `k` others is not returned. -/
inductive Refuses (env : InterfaceEnv) (k : ℕ) (p : Planned) : WolException → Prop
  | created : Refuses env k p ((socketLinux id).creationError (env.construct k).errno)
  | option : Refuses env k p
      (.socket (.socketException "Error while setting socket options".toList
        (env.construct k).errno))
  | bound (errno : ℤ) (h : env.bind k p.boundTo = some errno) : Refuses env k p
      (.socket (.socketException "Error while binding to socket".toList errno))

/-! ### Objects that are known -/

/-- Numbers of objects that are there with what the objects are, so many sockets made, and the
elements of the vector. -/
structure Known (made : ℕ) (ids : List ℕ) (known : List (ℕ × SocketObject ℤ)) (fr : Frame) :
    Prop where
  fresh : fr.world.Fresh
  made : fr.made = made
  sockets : fr.sockets = ids
  nodup : (known.map Prod.fst).Nodup
  objects : ∀ x ∈ known, fr.world.objects x.1 = some x.2

section Known

variable {movedFrom : Str → Str} {env : InterfaceEnv} {made : ℕ} {ids : List ℕ}
  {known known' : List (ℕ × SocketObject ℤ)} {fr : Frame}

theorem Known.perm (h : Known made ids known fr) (hperm : known.Perm known') :
    Known made ids known' fr where
  fresh := h.fresh
  made := h.made
  sockets := h.sockets
  nodup := (hperm.map Prod.fst).nodup_iff.mp h.nodup
  objects x hx := h.objects x (hperm.mem_iff.mpr hx)

theorem Known.tail {x : ℕ × SocketObject ℤ} (h : Known made ids (x :: known) fr) :
    Known made ids known fr where
  fresh := h.fresh
  made := h.made
  sockets := h.sockets
  nodup := (List.nodup_cons.mp h.nodup).2
  objects y hy := h.objects y (List.mem_cons_of_mem _ hy)

/-- The others have other numbers. -/
theorem Known.ne_head {i : ℕ} {obj : SocketObject ℤ} (h : Known made ids ((i, obj) :: known) fr)
    {x : ℕ × SocketObject ℤ} (hx : x ∈ known) : x.1 ≠ i := by
  intro heq
  have hmem : x.1 ∈ known.map Prod.fst := List.mem_map_of_mem hx
  rw [heq] at hmem
  exact (List.nodup_cons.mp h.nodup).1 hmem

/-- A number that is not used yet is none of theirs. -/
theorem Known.nodup_cons (h : Known made ids known fr) (obj : SocketObject ℤ) :
    (((fr.world.constructed, obj) :: known).map Prod.fst).Nodup := by
  rw [List.map_cons, List.nodup_cons]
  refine ⟨fun hmem => ?_, h.nodup⟩
  obtain ⟨x, hx, heq⟩ := List.mem_map.mp hmem
  have hlt := h.fresh.lt (h.objects x hx)
  omega

/-- A new object is known. -/
theorem Known.add (h : Known made ids known fr) (obj : SocketObject ℤ) {w : World ℤ}
    (hw : w.objects = Function.update fr.world.objects fr.world.constructed (some obj))
    (hfresh : w.Fresh) (ops : List (Op ℤ)) (made' : ℕ) :
    Known made' ids ((fr.world.constructed, obj) :: known) ⟨w, ops, fr.sockets, made'⟩ where
  fresh := hfresh
  made := rfl
  sockets := h.sockets
  nodup := h.nodup_cons obj
  objects x hx := by
    show w.objects x.1 = some x.2
    rw [hw]
    rcases List.mem_cons.mp hx with rfl | hx
    · exact Function.update_self _ _ _
    · have hlt := h.fresh.lt (h.objects x hx)
      rw [Function.update_of_ne hlt.ne, h.objects x hx]

/-- An object is destroyed, and what is known of the others remains. -/
theorem Known.destroy {i : ℕ} {obj : SocketObject ℤ} (h : Known made ids ((i, obj) :: known) fr) :
    Known made ids known (fr.perform movedFrom (.destroy i)) where
  fresh := h.fresh.step _
  made := h.made
  sockets := h.sockets
  nodup := h.tail.nodup
  objects x hx := by
    show ((fr.world.destroy (socketLinux movedFrom) i).objects x.1) = some x.2
    rw [World.objects_destroy, Function.update_of_ne (h.ne_head hx), h.tail.objects x hx]

/-- What an object is after it was moved from. -/
def husk (movedFrom : Str → Str) (obj : SocketObject ℤ) : SocketObject ℤ :=
  (obj.moveConstruct (socketLinux movedFrom)).2

/-- A move constructor makes an object that is what the other one was. -/
theorem Known.moveConstruct {j : ℕ} {obj : SocketObject ℤ}
    (h : Known made ids ((j, obj) :: known) fr) :
    Known made ids ((fr.world.constructed, obj) :: (j, husk movedFrom obj) :: known)
      (fr.perform movedFrom (.moveConstruct j)) := by
  have hj : fr.world.objects j = some obj := h.objects _ List.mem_cons_self
  have hlt : j < fr.world.constructed := h.fresh.lt hj
  have hmoved : Known made ids ((j, husk movedFrom obj) :: known)
      { fr with world.objects := Function.update fr.world.objects j (some (husk movedFrom obj)) } :=
    ⟨h.fresh.update hlt _, h.made, h.sockets, h.nodup, fun x hx => by
      show Function.update fr.world.objects j _ x.1 = some x.2
      rcases List.mem_cons.mp hx with rfl | hx
      · exact Function.update_self _ _ _
      · rw [Function.update_of_ne (h.ne_head hx), h.objects x (List.mem_cons_of_mem _ hx)]⟩
  have hworld : fr.world.step (socketLinux movedFrom) (.moveConstruct j) =
      World.add { fr.world with
        objects := Function.update fr.world.objects j (some (husk movedFrom obj)) } obj := by
    show fr.world.moveConstruct (socketLinux movedFrom) j = _
    unfold World.moveConstruct
    rw [hj]
    rfl
  obtain ⟨w, ops, sockets, n⟩ := fr
  obtain rfl : n = made := h.made
  unfold Frame.perform
  rw [hworld]
  exact hmoved.add obj rfl (hmoved.fresh.add obj) _ _

end Known

/-! ### The operations on the vector -/

section Spec

variable {movedFrom : Str → Str} {env : InterfaceEnv} {made : ℕ} {ids : List ℕ}
  {known : List (ℕ × SocketObject ℤ)} {E : WolException → Frame → Prop}

/-- A fact about a value that is not known. -/
theorem ensures_exists {σ ε α β : Type} {P : β → σ → Prop} {m : Program σ ε α}
    {Q : α → σ → Prop} {E : ε → σ → Prop} (h : ∀ b, Ensures (P b) m Q E) :
    Ensures (fun s => ∃ b, P b s) m Q E := by
  rintro s ⟨b, hs⟩
  exact h b s hs

variable (movedFrom env) in
theorem exec_create (dstIp : UInt32) (port : UInt16) (name : Str) (fr : Frame) :
    exec (create movedFrom env dstIp port name) fr =
      let a := env.construct fr.made
      let r := fr.world.construct (socketLinux movedFrom) dstIp port name a
      (r.1, ⟨r.2, fr.ops ++ [.construct dstIp port name a], fr.sockets, fr.made + 1⟩) := rfl

variable (movedFrom env made ids known) in
/-- A socket that is made is known, and serves as it was asked for. -/
theorem create_known (p : Planned) {dstIp : UInt32} {port : UInt16}
    (hdst : p.dstAddr = destination dstIp port) :
    Ensures (Known made ids known) (create movedFrom env dstIp port p.ifaceName)
      (fun tmp fr => ∃ obj, Serves p obj ∧ Known (made + 1) ids ((tmp, obj) :: known) fr)
      fun e _ => Refuses env made p e := by
  intro fr h
  rw [exec_create, h.made]
  dsimp only
  rcases World.construct_cases (socketLinux movedFrom) fr.world dstIp port p.ifaceName
    (env.construct made) with ⟨-, hrun⟩ | ⟨-, -, hrun⟩ | ⟨hsock, -, hrun⟩
  · rw [hrun]
    exact .created
  · rw [hrun]
    exact .option
  · rw [hrun]
    refine ⟨⟨p.ifaceName, fr.world.socket (socketLinux movedFrom) (env.construct made).socket,
      destination dstIp port⟩, ⟨rfl, hdst.symm, hsock⟩, ?_⟩
    refine h.add _ ?_ ((h.fresh.opened _ _ _ _).add _) _ _
    rw [World.opened, if_neg hsock]
    rfl

theorem moveConstruct_known (j : ℕ) (obj : SocketObject ℤ) :
    Ensures (Known made ids ((j, obj) :: known)) (moveConstruct movedFrom j)
      (fun i => Known made ids ((i, obj) :: (j, husk movedFrom obj) :: known)) E :=
  ensures_ofState fun _ h => h.moveConstruct

theorem destroy_known (i : ℕ) (obj : SocketObject ℤ) :
    Ensures (Known made ids ((i, obj) :: known)) (destroy movedFrom i)
      (fun _ => Known made ids known) E :=
  ensures_ofState fun _ h => h.destroy

theorem setSockets_known (ids' : List ℕ) :
    Ensures (Known made ids known) (setSockets ids') (fun _ => Known made ids' known) E :=
  ensures_ofState fun _ h => ⟨h.fresh, h.made, rfl, h.nodup, h.objects⟩

theorem destroyAll_known (l known : List (ℕ × SocketObject ℤ)) :
    Ensures (Known made ids (l ++ known)) (destroyAll movedFrom (l.map Prod.fst))
      (fun _ => Known made ids known) E := by
  induction l with
  | nil => exact ensures_pure fun _ h => h
  | cons x l ih => exact (destroy_known x.1 x.2).bind fun _ => ih

/-- Objects after they were moved from. -/
def husks (movedFrom : Str → Str) (l : List (ℕ × SocketObject ℤ)) : List (ℕ × SocketObject ℤ) :=
  l.map fun x => (x.1, husk movedFrom x.2)

variable (movedFrom) in
theorem map_fst_husks (l : List (ℕ × SocketObject ℤ)) :
    (husks movedFrom l).map Prod.fst = l.map Prod.fst := by
  unfold husks
  rw [List.map_map]
  rfl

/-- The elements in new storage are what the old ones were. -/
theorem moveAll_known (l known : List (ℕ × SocketObject ℤ)) :
    Ensures (Known made ids (l ++ known)) (moveAll movedFrom (l.map Prod.fst))
      (fun moved fr => ∃ l', moved = l'.map Prod.fst ∧ l'.map Prod.snd = l.map Prod.snd ∧
        Known made ids (l' ++ (husks movedFrom l ++ known)) fr) E := by
  induction l generalizing known with
  | nil => exact ensures_pure fun _ h => ⟨[], rfl, rfl, h⟩
  | cons x l ih =>
    refine (moveConstruct_known x.1 x.2).bind fun i => ?_
    have hfirst : ((i, x.2) :: (x.1, husk movedFrom x.2) :: (l ++ known)).Perm
        (l ++ ((i, x.2) :: (x.1, husk movedFrom x.2) :: known)) :=
      (List.perm_middle.trans (List.perm_middle.cons _)).symm
    have hrest := ih ((i, x.2) :: (x.1, husk movedFrom x.2) :: known)
    refine (hrest.conseq (fun _ h => h.perm hfirst) (fun _ _ h => h) fun _ _ h => h).bind
      fun moved => ensures_pure ?_
    rintro fr ⟨ys, rfl, hys, h⟩
    refine ⟨(i, x.2) :: ys, rfl, by rw [List.map_cons, List.map_cons, hys], h.perm ?_⟩
    have hmoved : (husks movedFrom l ++ ((i, x.2) :: (x.1, husk movedFrom x.2) :: known)).Perm
        ((i, x.2) :: (husks movedFrom (x :: l) ++ known)) :=
      List.perm_middle.trans (List.perm_middle.cons _)
    exact (hmoved.append_left ys).trans List.perm_middle

/-- `emplace_back` appends what the temporary object was. -/
theorem emplaceBack_known (l : List (ℕ × SocketObject ℤ)) (tmp : ℕ) (obj : SocketObject ℤ) :
    Ensures (Known made (l.map Prod.fst) ((tmp, obj) :: l)) (emplaceBack movedFrom env tmp)
      (fun _ fr => ∃ l', l'.map Prod.snd = l.map Prod.snd ++ [obj] ∧
        Known made (l'.map Prod.fst) ((tmp, husk movedFrom obj) :: l') fr) E := by
  have hget : Ensures (Known made (l.map Prod.fst) ((tmp, obj) :: l)) getSockets
      (fun sockets fr => sockets = l.map Prod.fst ∧
        Known made (l.map Prod.fst) ((tmp, obj) :: l) fr) E :=
    ensures_ofState fun _ h => ⟨h.sockets, h⟩
  refine hget.bind fun sockets => Ensures.of_and ?_
  rintro rfl
  refine (moveConstruct_known tmp obj).bind fun i => ?_
  refine Ensures.ite (fun _ => ?_) fun _ => ?_
  · have hperm : ((i, obj) :: (tmp, husk movedFrom obj) :: l).Perm
        (l ++ [(i, obj), (tmp, husk movedFrom obj)]) :=
      @List.perm_append_comm _ [(i, obj), (tmp, husk movedFrom obj)] l
    refine Ensures.bind (Ensures.conseq (moveAll_known l _) (fun _ h => h.perm hperm)
      (fun _ _ h => h) fun _ _ h => h) fun moved => ensures_exists fun l' => Ensures.of_and ?_
    rintro rfl
    refine Ensures.of_and fun hl' => ?_
    refine (setSockets_known _).bind fun _ => ?_
    rw [← map_fst_husks movedFrom l]
    refine (destroyAll_known _ ((tmp, husk movedFrom obj) :: (l' ++ [(i, obj)]))).conseq
      (fun _ h => h.perm ?_) (fun _ _ h => ?_) fun _ _ h => h
    · have hcomm : (l' ++ (husks movedFrom l ++ [(i, obj), (tmp, husk movedFrom obj)])).Perm
          (husks movedFrom l ++ (l' ++ [(i, obj), (tmp, husk movedFrom obj)])) := by
        rw [← List.append_assoc, ← List.append_assoc]
        exact List.perm_append_comm.append_right _
      refine hcomm.trans (List.Perm.append_left _ ?_)
      have hlast : (l' ++ [(i, obj), (tmp, husk movedFrom obj)]).Perm
          (l' ++ [(tmp, husk movedFrom obj), (i, obj)]) := (List.Perm.swap _ _ _).append_left l'
      exact hlast.trans List.perm_middle
    · refine ⟨l' ++ [(i, obj)], by rw [List.map_append, hl']; rfl, ?_⟩
      rw [List.map_append]
      exact h
  · refine (setSockets_known _).conseq (fun _ h => h) (fun _ _ h => ?_) fun _ _ h => h
    refine ⟨l ++ [(i, obj)], by rw [List.map_append]; rfl, ?_⟩
    rw [List.map_append]
    have hfirst : ((i, obj) :: (tmp, husk movedFrom obj) :: l).Perm
        ((tmp, husk movedFrom obj) :: (i, obj) :: l) := List.Perm.swap _ _ _
    exact h.perm (hfirst.trans ((List.perm_append_singleton (i, obj) l).symm.cons _))

/-! ### The loop -/

/-- The vector has these sockets, and all of them are bound. -/
structure Elements (env : InterfaceEnv) (planned : List Planned) (fr : Frame) : Prop where
  bound : ∀ k p, planned[k]? = some p → env.bind k p.boundTo = none
  there : ∃ l, List.Forall₂ Serves planned (l.map Prod.snd) ∧
    Known planned.length (l.map Prod.fst) l fr

/-- The exception is that of a system call for one of these sockets. -/
def Refused (env : InterfaceEnv) (planned : List Planned) (e : WolException) : Prop :=
  ∃ k p, planned[k]? = some p ∧ Refuses env k p e

theorem Refused.append {planned : List Planned} {e : WolException} (h : Refused env planned e)
    (rest : List Planned) : Refused env (planned ++ rest) e := by
  obtain ⟨k, p, hk, hrefuses⟩ := h
  have hlt : k < planned.length := (List.getElem?_eq_some_iff.mp hk).1
  exact ⟨k, p, by rw [List.getElem?_append_left hlt, hk], hrefuses⟩

theorem Refuses.refused {planned : List Planned} {p : Planned} {e : WolException}
    (h : Refuses env planned.length p e) : Refused env (planned ++ [p]) e :=
  ⟨planned.length, p, List.getElem?_concat_length, h⟩

/-- One more socket. -/
theorem Elements.concat {planned : List Planned} {p : Planned} {l : List (ℕ × SocketObject ℤ)}
    {fr : Frame} (hbound : ∀ k q, planned[k]? = some q → env.bind k q.boundTo = none)
    (hserves : List.Forall₂ Serves (planned ++ [p]) (l.map Prod.snd))
    (hknown : Known (planned.length + 1) (l.map Prod.fst) l fr)
    (hbind : env.bind planned.length p.boundTo = none) : Elements env (planned ++ [p]) fr := by
  refine ⟨fun k q hk => ?_, l, hserves, by rwa [List.length_append]⟩
  rcases Nat.lt_or_ge k planned.length with hlt | hge
  · rw [List.getElem?_append_left hlt] at hk
    exact hbound k q hk
  · rw [List.getElem?_append_right hge] at hk
    obtain ⟨hzero, rfl⟩ : k - planned.length = 0 ∧ p = q := by
      simpa [List.getElem?_singleton] using hk
    obtain rfl : k = planned.length := by omega
    exact hbind

variable (movedFrom env) in
/-- **A socket that is made, put into the vector and bound.** -/
theorem createAndBind_planned (planned : List Planned) (p : Planned) {dstIp : UInt32}
    {port : UInt16} (hdst : p.dstAddr = destination dstIp port) :
    Ensures (Elements env planned)
      (createAndBind movedFrom env dstIp port p.ifaceName p.boundTo)
      (fun _ => Elements env (planned ++ [p])) fun e _ => Refused env (planned ++ [p]) e := by
  rintro fr ⟨hbound, l, hserves, hknown⟩
  have hcreate := (create_known movedFrom env planned.length (l.map Prod.fst) l p hdst).conseq
    (fun _ h => h) (fun _ _ h => h) fun _ _ h => h.refused
  refine (hcreate.bind fun tmp => ensures_exists fun obj => Ensures.of_and fun hobj => ?_) fr hknown
  refine (emplaceBack_known l tmp obj).bind fun _ => ensures_exists fun l' => Ensures.of_and ?_
  intro hl'
  have hserves' : List.Forall₂ Serves (planned ++ [p]) (l'.map Prod.snd) := by
    rw [hl']
    exact List.rel_append hserves (.cons hobj .nil)
  refine (destroy_known tmp _).bind fun _ => ?_
  intro fr' hknown'
  rw [bindBack, exec_ofExcept, hknown'.made, Nat.add_sub_cancel]
  cases hbind : env.bind planned.length p.boundTo with
  | none => exact .concat hbound hserves' hknown' hbind
  | some errno => exact (Refuses.bound errno hbind).refused

variable (movedFrom env) in
/-- **The sockets for an interface.** -/
theorem createForInterface_planned (planned : List Planned) (port : UInt16) (name : Str)
    (addr baddr : SockAddrIn) :
    Ensures (Elements env planned) (createForInterface movedFrom env port name addr baddr)
      (fun _ => Elements env (planned ++ planFor env port planned.length name addr baddr))
      fun e _ => Refused env (planned ++ planFor env port planned.length name addr baddr) e := by
  let first : Planned := ⟨name, destination getBroadcastAddr port, ⟨afInet, 0, addr.sAddr⟩⟩
  let localPort := (env.getsockname planned.length).sinPort
  let second : Planned := ⟨name, destination inaddrAny port, ⟨afInet, localPort, inaddrAny⟩⟩
  let third : Planned := ⟨name, destination baddr.sAddr port, ⟨afInet, localPort, inaddrAny⟩⟩
  have hplan : planned ++ planFor env port planned.length name addr baddr =
      planned ++ [first] ++ [second] ++ [third] := by
    rw [List.append_assoc, List.append_assoc]
    rfl
  rw [hplan]
  have hfirst := createAndBind_planned movedFrom env planned first rfl
  have hsecond := createAndBind_planned movedFrom env (planned ++ [first]) second rfl
  have hthird := createAndBind_planned movedFrom env (planned ++ [first] ++ [second]) third rfl
  have hget : Ensures (Elements env (planned ++ [first])) (getsocknameBack env)
      (fun a fr => a = env.getsockname planned.length ∧ Elements env (planned ++ [first]) fr)
      fun e _ => Refused env (planned ++ [first] ++ [second] ++ [third]) e := by
    refine ensures_ofState fun fr h => ⟨?_, h⟩
    obtain ⟨-, l, -, hknown⟩ := h
    show env.getsockname (fr.made - 1) = _
    rw [hknown.made, List.length_append]
    rfl
  refine (hfirst.conseq (fun _ h => h) (fun _ _ h => h) fun _ _ h =>
    (h.append _).append _).bind fun _ => ?_
  refine hget.bind fun localAddress => Ensures.of_and ?_
  rintro rfl
  refine (hsecond.conseq (fun _ h => h) (fun _ _ h => h) fun _ _ h => h.append _).bind fun _ => ?_
  exact hthird

variable (movedFrom env) in
/-- An interface that is not taken is skipped. -/
theorem createForEntry_eq (port : UInt16) (entry : IfAddrs) :
    createForEntry movedFrom env port entry = match entry.taken with
      | some (name, addr, baddr) => createForInterface movedFrom env port name addr baddr
      | none => pure () := by
  unfold createForEntry IfAddrs.taken
  rcases entry with ⟨flags, _ | name, _ | addr, _ | baddr⟩ <;> try rfl
  dsimp only
  split_ifs <;> rfl

/-- Destructors do not throw. -/
theorem destroyAll_returns {φ : Prop} (l : List ℕ) :
    Ensures (fun _ => φ) (destroyAll movedFrom l) (fun _ _ => φ) E := by
  induction l with
  | nil => exact ensures_pure fun _ h => h
  | cons i l ih => exact (ensures_ofState fun _ h => h).bind fun _ => ih

variable (movedFrom env) in
/-- **Every run of the loop** makes the sockets of the plan one after the other. -/
theorem createLoop_planned (planned : List Planned) (port : UInt16) (addrs : List IfAddrs) :
    Ensures (Elements env planned) (createLoop movedFrom env port addrs)
      (fun _ => Elements env (planned ++ plan env port planned.length addrs))
      fun e _ => Refused env (planned ++ plan env port planned.length addrs) e := by
  induction addrs generalizing planned with
  | nil =>
    rw [plan, List.append_nil]
    exact ensures_pure fun _ h => h
  | cons entry addrs ih =>
    rw [createLoop, plan, createForEntry_eq]
    rcases entry.taken with _ | ⟨name, addr, baddr⟩
    · exact (ensures_pure fun _ h => h).bind fun _ => ih planned
    · have hrest := ih (planned ++ planFor env port planned.length name addr baddr)
      rw [List.length_append, List.append_assoc] at hrest
      refine Ensures.bind ?_ fun _ => hrest
      refine (createForInterface_planned movedFrom env planned port name addr baddr).conseq
        (fun _ h => h) (fun _ _ h => h) fun _ _ h => ?_
      have happend := h.append (plan env port (planned.length + 3) addrs)
      rwa [List.append_assoc] at happend

end Spec

/-! ### What is returned -/

/-- The sockets of the plan are there, each with a handle of its own. -/
structure Returned (env : InterfaceEnv) (planned : List Planned) (w : World ℤ)
    (sockets : List ℕ) (objs : List (SocketObject ℤ)) : Prop where
  objects : sockets.map w.objects = objs.map some
  serves : List.Forall₂ Serves planned objs
  bound : ∀ k p, planned[k]? = some p → env.bind k p.boundTo = none
  handles : (objs.map SocketObject.sock).Nodup

/-- Objects with different numbers have different handles. -/
theorem nodup_handles {movedFrom : Str → Str} {w : World ℤ}
    (hw : World.Valid (socketLinux movedFrom) w) {l : List (ℕ × SocketObject ℤ)}
    (hnodup : (l.map Prod.fst).Nodup) (hobjects : ∀ x ∈ l, w.objects x.1 = some x.2)
    (hsock : ∀ x ∈ l, x.2.sock ≠ -1) : (l.map fun x => x.2.sock).Nodup := by
  induction l with
  | nil => exact List.nodup_nil
  | cons x l ih =>
    rw [List.map_cons, List.nodup_cons] at hnodup ⊢
    refine ⟨fun hmem => ?_, ih hnodup.2 (fun y hy => hobjects y (List.mem_cons_of_mem _ hy))
      fun y hy => hsock y (List.mem_cons_of_mem _ hy)⟩
    obtain ⟨y, hy, hsame⟩ := List.mem_map.mp hmem
    have heq : y.1 = x.1 := hw.unique (hobjects y (List.mem_cons_of_mem _ hy))
      (hobjects x List.mem_cons_self) (hsock y (List.mem_cons_of_mem _ hy)) hsame
    exact hnodup.1 (heq ▸ List.mem_map_of_mem hy)

/-- **The sockets for all interfaces.**  After any operations on objects, the function returns the
sockets of the plan, in its order, with handles of their own, each bound as planned; or it throws
the exception of a system call for one of them, and none of them is left. -/
theorem createAndBind_elements (movedFrom : Str → Str) (env : InterfaceEnv) (ops : List (Op ℤ))
    (port : UInt16) (addrs : List IfAddrs) :
    let w := run (World.step (socketLinux movedFrom)) World.start ops
    let r := exec (createAndBindForAllInterfaces movedFrom env port addrs) (Frame.entry w)
    match r.1 with
    | .ok sockets => ∃ objs, Returned env (plan env port 0 addrs) r.2.world sockets objs
    | .error e => Refused env (plan env port 0 addrs) e ∧
      ∀ i, r.2.world.Alive i ↔ w.Alive i := by
  intro w r
  have hw : World.Valid (socketLinux movedFrom) w :=
    run_invariant (fun _ op h => h.step op) World.valid_start ops
  obtain ⟨hrun, -, hdestroyed⟩ := createAndBind_run movedFrom env hw.fresh port addrs
  have hvalid : World.Valid (socketLinux movedFrom) r.2.world := by
    rw [show r.2.world = _ from hrun]
    exact run_invariant (fun _ op h => h.step op) hw _
  have hentry : Elements env [] (Frame.entry w) :=
    ⟨nofun, [], .nil, hw.fresh, rfl, rfl, List.nodup_nil, nofun⟩
  have hget : Ensures (Elements env (plan env port 0 addrs)) getSockets
      (fun sockets fr => Elements env (plan env port 0 addrs) fr ∧ fr.sockets = sockets)
      fun e _ => Refused env (plan env port 0 addrs) e := ensures_ofState fun _ h => ⟨h, rfl⟩
  have hspec : Ensures (Elements env []) (createAndBindForAllInterfaces movedFrom env port addrs)
      (fun sockets fr => Elements env (plan env port 0 addrs) fr ∧ fr.sockets = sockets)
      fun e _ => Refused env (plan env port 0 addrs) e := by
    refine ((createLoop_planned movedFrom env [] port addrs).bind fun _ => hget).tryCatch
      fun e => ?_
    have hkeep : ∀ {α : Type} (f : Frame → α × Frame),
        Ensures (fun _ => Refused env (plan env port 0 addrs) e) (ofState f)
          (fun _ _ => Refused env (plan env port 0 addrs) e)
          fun e _ => Refused env (plan env port 0 addrs) e := fun f => ensures_ofState fun _ h => h
    refine (hkeep _).bind fun sockets => (hkeep _).bind fun _ => ?_
    exact (destroyAll_returns sockets).bind fun _ => ensures_throw fun _ h => h
  cases hr : r.1 with
  | error e =>
    exact ⟨hspec.error hentry (show r = (.error e, r.2) by rw [← hr]), hdestroyed e hr⟩
  | ok sockets =>
    obtain ⟨⟨hbound, l, hserves, hknown⟩, hsockets⟩ :=
      hspec.ok hentry (show r = (.ok sockets, r.2) by rw [← hr])
    have hids : sockets = l.map Prod.fst := hsockets.symm.trans hknown.sockets
    have hsock : ∀ obj ∈ l.map Prod.snd, obj.sock ≠ -1 :=
      (List.forall₂_and_left _ _ |>.mp (hserves.flip.imp fun _ _ h => ⟨h.sock, h⟩)).1
    refine ⟨l.map Prod.snd, ?_, hserves, hbound, ?_⟩
    · rw [hids, List.map_map, List.map_map]
      exact List.map_congr_left hknown.objects
    · rw [List.map_map]
      exact nodup_handles hvalid hknown.nodup hknown.objects fun x hx =>
        hsock x.2 (List.mem_map_of_mem hx)

end Sockets
end RcDiscover
