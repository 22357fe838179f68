/- module: EasyTierEdge/Server/Milestones
   source: cloudflare/src/server.ts, close, removeConnection and broadcastRouteUpdate
   digest: What a cascade of closings adds to the history of the connections. -/

import EasyTierEdge.Server.Ledger

set_option autoImplicit false
set_option relaxedAutoImplicit false

namespace EasyTierEdge.Server.Milestones

open Secure.Connections
open Secure.Peer (SecureEnv)
open Sockets Books Ledger

variable {HS : Type}

/-- The connections whose sockets were told to close. -/
def closings : List Milestone → List Nat :=
  List.filterMap fun milestone =>
    match milestone with
    | .closing c => some c
    | _ => none

/-- The connections that were removed. -/
def removals : List Milestone → List Nat :=
  List.filterMap fun milestone =>
    match milestone with
    | .removed c => some c
    | _ => none

private theorem closings_append (news news' : List Milestone) :
    closings (news ++ news') = closings news ++ closings news' :=
  List.filterMap_append

private theorem removals_append (news news' : List Milestone) :
    removals (news ++ news') = removals news ++ removals news' :=
  List.filterMap_append

/-- A route update for the connection returned normally, and nobody was removed after it. -/
def UpdatedSince (c : Nat) (news : List Milestone) : Prop :=
  ∃ before after, news = before ++ after ∧ removals after = [] ∧ .updated c ∈ after

private theorem UpdatedSince.of_mem {c : Nat} {news : List Milestone} (calm : removals news = [])
    (updated : .updated c ∈ news) : UpdatedSince c news :=
  ⟨[], news, rfl, calm, updated⟩

private theorem UpdatedSince.later {c : Nat} {news : List Milestone} (updated : UpdatedSince c news)
    (earlier : List Milestone) : UpdatedSince c (earlier ++ news) := by
  obtain ⟨before, after, rfl, calm, member⟩ := updated
  exact ⟨earlier ++ before, after, (List.append_assoc earlier before after).symm, calm, member⟩

private theorem UpdatedSince.updated {c : Nat} {news : List Milestone}
    (updated : UpdatedSince c news) (d : Nat) : UpdatedSince c (news ++ [.updated d]) := by
  obtain ⟨before, after, rfl, calm, member⟩ := updated
  refine ⟨before, after ++ [.updated d], List.append_assoc before after _, ?_, ?_⟩
  · rw [removals_append, calm]
    rfl
  · exact List.mem_append_left _ member

/-- The connection exists and is not closed. -/
def Opened (g : Grid HS) (c : Nat) : Prop :=
  ∃ o, g.objects[c]? = some o ∧ o.phase ≠ .closed

/-- From `g` to `g'` the history grew by `news`: every socket that was told to close belongs to a
connection that was removed, and each removed connection was open before and is closed after. -/
structure Progress (g : Grid HS) (news : List Milestone) (g' : Grid HS) : Prop where
  history : g'.history = g.history ++ news
  inputs : g'.inputs = g.inputs
  paired : (closings news).Sublist (removals news)
  once : (removals news).Nodup
  opened : ∀ c ∈ removals news, Opened g c
  closed : ∀ c ∈ removals news, ¬ Opened g' c
  kept : ∀ (c : Nat) (o' : Connection), g'.objects[c]? = some o' → o'.phase ≠ .closed →
    ∃ o, g.objects[c]? = some o ∧ o.phase ≠ .closed ∧ rpcPeer c o' = rpcPeer c o

namespace Progress

variable {g g' g'' : Grid HS} {news news' : List Milestone}

private theorem earlier (progress : Progress g news g') {c : Nat} (opened : Opened g' c) :
    Opened g c := by
  obtain ⟨o', there', standing⟩ := opened
  obtain ⟨o, there, standing', _⟩ := progress.kept c o' there' standing
  exact ⟨o, there, standing'⟩

theorem still (history : g'.history = g.history) (inputs : g'.inputs = g.inputs)
    (kept : ∀ (c : Nat) (o' : Connection), g'.objects[c]? = some o' → o'.phase ≠ .closed →
      ∃ o, g.objects[c]? = some o ∧ o.phase ≠ .closed ∧ rpcPeer c o' = rpcPeer c o) :
    Progress g [] g' where
  history := history.trans (List.append_nil _).symm
  inputs := inputs
  paired := List.Sublist.refl []
  once := List.nodup_nil
  opened := fun _ none => absurd none List.not_mem_nil
  closed := fun _ none => absurd none List.not_mem_nil
  kept := kept

theorem same {E : SecureEnv HS} (books : SameBooks E g g') : Progress g [] g' := by
  apply still books.history books.inputs
  intro c o' there' standing
  obtain ⟨o, there, cards⟩ := books.object there'
  have phase : o'.phase = o.phase := shown Connection.phase cards fun _ => rfl
  refine ⟨o, there, phase ▸ standing, ?_⟩
  rw [← rpcPeer_card c o', cards, rpcPeer_card]

theorem trans (first : Progress g news g') (second : Progress g' news' g'') :
    Progress g (news ++ news') g'' := by
  constructor
  · rw [second.history, first.history, List.append_assoc]
  · exact second.inputs.trans first.inputs
  · rw [closings_append, removals_append]
    exact first.paired.append second.paired
  · rw [removals_append]
    apply first.once.append second.once
    intro c before after
    exact first.closed c before (second.opened c after)
  · intro c member
    rw [removals_append] at member
    rcases List.mem_append.mp member with before | after
    · exact first.opened c before
    · exact first.earlier (second.opened c after)
  · intro c member
    rw [removals_append] at member
    rcases List.mem_append.mp member with before | after
    · exact fun opened => first.closed c before (second.earlier opened)
    · exact second.closed c after
  · intro c o'' there'' standing
    obtain ⟨o', there', standing', same'⟩ := second.kept c o'' there'' standing
    obtain ⟨o, there, standing, same⟩ := first.kept c o' there' standing'
    exact ⟨o, there, standing, same'.trans same⟩

theorem updated (c : Nat) :
    Progress g [.updated c] { g with history := g.history ++ [.updated c] } where
  history := rfl
  inputs := rfl
  paired := List.Sublist.refl []
  once := List.nodup_nil
  opened := fun _ none => absurd none List.not_mem_nil
  closed := fun _ none => absurd none List.not_mem_nil
  kept := fun _ o there opened => ⟨o, there, opened, rfl⟩

theorem removed {c : Nat} {o : Connection} (there : g.objects[c]? = some o)
    (opened : o.phase ≠ .closed) : Progress g [.removed c] (closing c o g) where
  history := rfl
  inputs := rfl
  paired := List.nil_sublist _
  once := List.nodup_singleton c
  opened := by
    intro d member
    rw [List.mem_singleton.mp member]
    exact ⟨o, there, opened⟩
  closed := by
    intro d member stays
    obtain ⟨u, there', standing⟩ := stays
    exact (closing_object there' standing).1 (List.mem_singleton.mp member)
  kept := fun _ u there' standing => ⟨u, (closing_object there' standing).2, standing, rfl⟩

theorem announced {c : Nat} {o : Connection} (history : g'.history = g.history ++ [.closing c])
    (inputs : g'.inputs = g.inputs) (objects : g'.objects = g.objects)
    (there : g'.objects[c]? = some o) (opened : o.phase ≠ .closed)
    (rest : Progress (closing c o g') news g'') :
    Progress g (.closing c :: .removed c :: news) g'' := by
  have whole : Progress g' (.removed c :: news) g'' := (removed there opened).trans rest
  have earlier {d : Nat} (known : Opened g' d) : Opened g d := by
    unfold Opened at known ⊢
    rwa [objects] at known
  constructor
  · rw [whole.history, history, List.append_assoc]
    rfl
  · exact whole.inputs.trans inputs
  · exact rest.paired.cons_cons c
  · exact whole.once
  · exact fun d member => earlier (whole.opened d member)
  · exact whole.closed
  · rw [← objects]
    exact whole.kept

end Progress

/-- Every ready connection of the network has had its update since the last removal. -/
def Fresh (networkName : String) (news : List Milestone) (g : Grid HS) : Prop :=
  ∀ (c : Nat) (o : Connection), g.objects[c]? = some o → o.phase = .ready →
    o.networkName = networkName → UpdatedSince c news

/-- Between two rounds of a broadcast: nobody was removed and who is ready has had its update or is
still to be visited, or a nested broadcast has left the network fresh. -/
def Pending (networkName : String) (rest : List UInt32) (news : List Milestone) (g : Grid HS) :
    Prop :=
  (removals news = [] ∧ ∀ (c : Nat) (o : Connection), g.objects[c]? = some o → o.phase = .ready →
    o.networkName = networkName → .updated c ∈ news ∨ o.peerId ∈ rest) ∨
  Fresh networkName news g

section Rounds

variable {networkName : String} {news : List Milestone} {g g' : Grid HS}

theorem Fresh.later (fresh : Fresh networkName news g) (earlier : List Milestone) :
    Fresh networkName (earlier ++ news) g :=
  fun c o there ready name => (fresh c o there ready name).later earlier

theorem Pending.done (pending : Pending networkName [] news g) : Fresh networkName news g := by
  rcases pending with ⟨calm, visited⟩ | fresh
  · intro c o there ready name
    rcases visited c o there ready name with updated | impossible
    · exact .of_mem calm updated
    · cases impossible
  · exact fresh

theorem Pending.skip {peerId : UInt32} {rest : List UInt32}
    (pending : Pending networkName (peerId :: rest) news g)
    (nobody : ∀ (c : Nat) (o : Connection), g.objects[c]? = some o → o.phase = .ready →
      o.networkName = networkName → o.peerId ≠ peerId) : Pending networkName rest news g := by
  rcases pending with ⟨calm, visited⟩ | fresh
  · refine Or.inl ⟨calm, ?_⟩
    intro c o there ready name
    refine (visited c o there ready name).imp_right fun member => ?_
    exact (List.mem_cons.mp member).resolve_left (nobody c o there ready name)
  · exact Or.inr fresh

/-- A peer whose update returned normally; sends change no phases. -/
theorem Pending.visit {E : SecureEnv HS} {peerId : UInt32} {rest : List UInt32} {c : Nat}
    (pending : Pending networkName (peerId :: rest) news g) (books : SameBooks E g g')
    (only : ∀ (d : Nat) (o : Connection), g.objects[d]? = some o → o.phase = .ready →
      o.networkName = networkName → o.peerId = peerId → d = c) :
    Pending networkName rest (news ++ [.updated c]) g' := by
  have before {d : Nat} {o' : Connection} (there' : g'.objects[d]? = some o')
      (ready : o'.phase = .ready) (name : o'.networkName = networkName) :
      ∃ o, g.objects[d]? = some o ∧ o.phase = .ready ∧ o.networkName = networkName ∧
        o'.peerId = o.peerId := by
    obtain ⟨o, there, cards⟩ := books.object there'
    have phase : o'.phase = o.phase := shown Connection.phase cards fun _ => rfl
    have network : o'.networkName = o.networkName :=
      shown Connection.networkName cards fun _ => rfl
    have id : o'.peerId = o.peerId := shown Connection.peerId cards fun _ => rfl
    exact ⟨o, there, phase.symm.trans ready, network.symm.trans name, id⟩
  rcases pending with ⟨calm, visited⟩ | fresh
  · refine Or.inl ⟨?_, ?_⟩
    · rw [removals_append, calm]
      rfl
    · intro d o' there' ready name
      obtain ⟨o, there, ready₀, name₀, id⟩ := before there' ready name
      rcases visited d o there ready₀ name₀ with updated | member
      · exact Or.inl (List.mem_append_left _ updated)
      · rcases List.mem_cons.mp member with own | later
        · rw [only d o there ready₀ name₀ own]
          exact Or.inl (List.mem_append_right _ List.mem_cons_self)
        · exact Or.inr (id ▸ later)
  · refine Or.inr ?_
    intro d o' there' ready name
    obtain ⟨o, there, ready₀, name₀, _⟩ := before there' ready name
    exact (fresh d o there ready₀ name₀).updated c

end Rounds

/-- `socket.close` never throws. -/
def Calm (inputs : Inputs) : Prop :=
  ∀ k code reason, inputs.socketClose k code reason = .ok ()

end EasyTierEdge.Server.Milestones
