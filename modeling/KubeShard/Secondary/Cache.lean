import KubeShard.Program.Run
import KubeShard.Secondary.Client

/-!
# The client cache under concurrent calls

Any number of calls of `GetOrCreate` and `Invalidate` may be under way.  What they do
outside the lock touches nothing shared, so a run is an interleaving of lock
sections: the look-up under the read lock, the second look-up and the creation under
the write lock, and the deletion.  A call may start and return at any time around its
own sections.
-/

namespace KubeShard.Secondary

/-- What has happened, as far as clients can tell. -/
inductive Event where
  | started (call : Nat) (key : String) (cfg : ClientConfig)
  | cached (key : String) (client : Client)
  | invalidated (key : String)
  | returned (call : Nat) (key : String) (cfg : ClientConfig) (answer : Except ApiError Client)

/-- Where a call of `GetOrCreate` stands. -/
inductive Phase where
  /-- Before the section under the read lock. -/
  | started
  /-- Before the section under the write lock. -/
  | missed
  /-- About to return. -/
  | answered (answer : Except ApiError Client)
  | returned

/-- A call of `GetOrCreate`. -/
structure Call where
  key : String
  cfg : ClientConfig
  phase : Phase

/-- The cache and the calls on it. -/
structure System where
  provider : ClientProvider := {}
  calls : Nat → Option Call := fun _ => none
  history : List Event := []

/-- The steps of an interleaving.  `failure` is what `client.New` answers in this
section. -/
inductive Step where
  | start (call : Nat) (key : String) (cfg : ClientConfig)
  | read (call : Nat)
  | lock (call : Nat) (failure : Option ApiError)
  | respond (call : Nat)
  | invalidate (key : String)

namespace System

/-- The call goes on to another phase. -/
def move (system : System) (id : Nat) (call : Call) (phase : Phase) : System :=
  { system with calls := Function.update system.calls id (some { call with phase := phase }) }

variable (sha256 : String → String)

/-- The phase a call is in after its section under the read lock. -/
def looked (provider : ClientProvider) (call : Call) : Phase :=
  match cached sha256 (provider.clients.find? call.key) call.cfg with
  | some client => .answered (.ok client)
  | none => .missed

/-- The effect of a step; a step of a call that is elsewhere has none. -/
def step (system : System) : Step → System
  | .start id key cfg =>
      match system.calls id with
      | some _ => system
      | none =>
          { system.move id ⟨key, cfg, .started⟩ .started with
            history := system.history ++ [.started id key cfg] }
  | .read id =>
      match system.calls id with
      | some ⟨key, cfg, .started⟩ =>
          system.move id ⟨key, cfg, .started⟩ (looked sha256 system.provider ⟨key, cfg, .started⟩)
      | _ => system
  | .lock id failure =>
      match system.calls id with
      | some ⟨key, cfg, .missed⟩ =>
          let (answer, provider) := system.provider.lockedGetOrCreate sha256 key cfg failure
          let created := provider.built.drop system.provider.built.length
          { system.move id ⟨key, cfg, .missed⟩ (.answered answer) with
            provider := provider
            history := system.history ++ created.map (.cached key) }
      | _ => system
  | .respond id =>
      match system.calls id with
      | some ⟨key, cfg, .answered answer⟩ =>
          { system.move id ⟨key, cfg, .answered answer⟩ .returned with
            history := system.history ++ [.returned id key cfg answer] }
      | _ => system
  | .invalidate key =>
      { system with
        provider := system.provider.invalidate key
        history := system.history ++ [.invalidated key] }

end System

/-! ## What the sections do -/

section sections

variable {sha256 : String → String} {provider : ClientProvider} {key : String}
  {cfg : ClientConfig}

theorem cached_eq_some {client : Client} :
    cached sha256 (provider.clients.find? key) cfg = some client ↔
      ∃ entry ∈ provider.clients.items, entry.key = key ∧ entry.serves sha256 cfg = true ∧
        entry.client = client := by
  simp only [cached, Option.map_eq_some_iff, Option.filter_eq_some_iff, Store.find?_eq_some]
  constructor
  · rintro ⟨entry, ⟨⟨membership, sameKey⟩, serves⟩, same⟩
    exact ⟨entry, membership, sameKey, serves, same⟩
  · rintro ⟨entry, membership, sameKey, serves, same⟩
    exact ⟨entry, ⟨⟨membership, sameKey⟩, serves⟩, same⟩

/-- Under the write lock a client is found, or none can be built, or a new one is
built and cached. -/
theorem lockedGetOrCreate_cases (sha256 : String → String) (provider : ClientProvider)
    (key : String) (cfg : ClientConfig) (failure : Option ApiError) :
    (∃ entry ∈ provider.clients.items, entry.key = key ∧ entry.serves sha256 cfg = true ∧
      provider.lockedGetOrCreate sha256 key cfg failure = (.ok entry.client, provider)) ∨
    (∃ failed, provider.lockedGetOrCreate sha256 key cfg failure = (.error failed, provider)) ∨
    provider.lockedGetOrCreate sha256 key cfg failure =
      (.ok ⟨provider.built.length, cfg⟩,
        { clients := provider.clients.insert
            ⟨key, ⟨provider.built.length, cfg⟩, cfg.host, cfg.fingerprint sha256, false⟩
          built := provider.built ++ [⟨provider.built.length, cfg⟩] }) := by
  unfold ClientProvider.lockedGetOrCreate
  cases hit : cached sha256 (provider.clients.find? key) cfg with
  | some client =>
      obtain ⟨entry, membership, sameKey, serves, rfl⟩ := cached_eq_some.mp hit
      exact .inl ⟨entry, membership, sameKey, serves, rfl⟩
  | none =>
      right
      cases failure with
      | some failed => exact .inl ⟨_, rfl⟩
      | none => exact .inr rfl

end sections

/-! ## The invariant -/

/-- The client was built for settings like these. -/
def Client.Suits (sha256 : String → String) (client : Client) (cfg : ClientConfig) : Prop :=
  client.config.host = cfg.host ∧
    client.config.fingerprint sha256 = cfg.fingerprint sha256

/-- The entry tells what its client was built for. -/
structure ClientEntry.Honest (sha256 : String → String) (entry : ClientEntry) : Prop where
  unpinned : entry.pinned = false
  host : entry.host = entry.client.config.host
  fingerprint : entry.fingerprint = entry.client.config.fingerprint sha256

theorem ClientEntry.Honest.suits {sha256 : String → String} {entry : ClientEntry}
    {cfg : ClientConfig} (honest : entry.Honest sha256) (serves : entry.serves sha256 cfg = true) :
    entry.client.Suits sha256 cfg := by
  simp only [ClientEntry.serves, honest.unpinned, Bool.false_or, Bool.and_eq_true,
    decide_eq_true_eq] at serves
  exact ⟨honest.host ▸ serves.1, honest.fingerprint ▸ serves.2⟩

/-- The client was cached under the key before an invalidation of it. -/
def Dropped (history : List Event) (key : String) (client : Client) : Prop :=
  List.Sublist [.cached key client, .invalidated key] history

/-- The client was cached under the key before an invalidation of it, and the call
started after that. -/
def Stale (history : List Event) (id : Nat) (key : String) (client : Client) : Prop :=
  ∃ cfg, List.Sublist [.cached key client, .invalidated key, .started id key cfg] history

/-- The last of some events is the latest event, or they all happened before it. -/
theorem sublist_concat {α : Type} {earlier history : List α} {last latest : α}
    (ordered : List.Sublist (earlier ++ [last]) (history ++ [latest])) :
    List.Sublist (earlier ++ [last]) history ∨ last = latest ∧ List.Sublist earlier history := by
  rw [← List.reverse_sublist, List.reverse_concat, List.reverse_concat,
    List.sublist_cons_iff] at ordered
  rcases ordered with old | ⟨rest, same, old⟩
  · left
    rwa [← List.reverse_concat, List.reverse_sublist] at old
  · right
    cases same
    exact ⟨rfl, List.reverse_sublist.mp old⟩

theorem Dropped.concat {history : List Event} {latest : Event} {key : String} {client : Client}
    (dropped : Dropped (history ++ [latest]) key client) :
    Dropped history key client ∨
      .invalidated key = latest ∧ .cached key client ∈ history := by
  rcases sublist_concat (show List.Sublist ([Event.cached key client] ++ [_]) _
    from dropped) with old | ⟨same, old⟩
  · exact .inl old
  · exact .inr ⟨same, List.singleton_sublist.mp old⟩

theorem Stale.concat {history : List Event} {latest : Event} {id : Nat} {key : String}
    {client : Client} (stale : Stale (history ++ [latest]) id key client) :
    Stale history id key client ∨ ∃ cfg, .started id key cfg = latest := by
  obtain ⟨cfg, ordered⟩ := stale
  rcases sublist_concat
    (show List.Sublist ([Event.cached key client, .invalidated key] ++ [_]) _ from ordered) with
    old | ⟨same, _⟩
  · exact .inl ⟨cfg, old⟩
  · exact .inr ⟨cfg, same⟩

theorem Stale.dropped {history : List Event} {id : Nat} {key : String} {client : Client}
    (stale : Stale history id key client) : Dropped history key client := by
  obtain ⟨cfg, ordered⟩ := stale
  exact (List.sublist_append_left [Event.cached key client, .invalidated key]
    [.started id key cfg]).trans ordered

/-- Cached clients are what their entries say and were not dropped under their key;
calls have answers of clients that suit them and were not dropped before they
started. -/
structure Sound (sha256 : String → String) (system : System) : Prop where
  entries : ∀ entry ∈ system.provider.clients.items, entry.Honest sha256 ∧
    ¬Dropped system.history entry.key entry.client
  ids : ∀ key client, .cached key client ∈ system.history →
    client.id < system.provider.built.length
  answered : ∀ id key cfg client,
    system.calls id = some ⟨key, cfg, .answered (.ok client)⟩ →
      client.Suits sha256 cfg ∧ ¬Stale system.history id key client
  returned : ∀ id key cfg client, .returned id key cfg (.ok client) ∈ system.history →
    client.Suits sha256 cfg ∧ ¬Stale system.history id key client ∧
      (system.calls id).isSome = true

namespace Sound

variable {sha256 : String → String} {system : System}

theorem initial : Sound sha256 {} := by
  refine ⟨?_, ?_, ?_, ?_⟩ <;> nofun

/-- A found client is a proper answer to any call for its key. -/
theorem hit (sound : Sound sha256 system) {entry : ClientEntry}
    (membership : entry ∈ system.provider.clients.items) {cfg : ClientConfig}
    (serves : entry.serves sha256 cfg = true) (id : Nat) :
    entry.client.Suits sha256 cfg ∧ ¬Stale system.history id entry.key entry.client := by
  obtain ⟨honest, kept⟩ := sound.entries entry membership
  exact ⟨honest.suits serves, fun stale => kept stale.dropped⟩

/-- A call goes on, with a proper answer if it has one. -/
theorem move (sound : Sound sha256 system) (id : Nat) (call : Call) {phase : Phase}
    (proper : ∀ client, phase = .answered (.ok client) →
      client.Suits sha256 call.cfg ∧ ¬Stale system.history id call.key client) :
    Sound sha256 (system.move id call phase) where
  entries := sound.entries
  ids := sound.ids
  answered := by
    intro other key cfg client isAnswered
    by_cases same : other = id
    · subst same
      simp only [System.move, Function.update_self, Option.some.injEq, Call.mk.injEq] at isAnswered
      obtain ⟨rfl, rfl, isAnswer⟩ := isAnswered
      exact proper client isAnswer
    · simp only [System.move, Function.update_of_ne same] at isAnswered
      exact sound.answered other key cfg client isAnswered
  returned := by
    intro other key cfg client membership
    obtain ⟨suits, fresh, called⟩ := sound.returned other key cfg client membership
    refine ⟨suits, fresh, ?_⟩
    by_cases same : other = id
    · subst same
      simp [System.move]
    · simpa only [System.move, Function.update_of_ne same] using called

/-- One more event is logged: no cached client is dropped by it, no call that exists is
started by it, and it tells of no client that is not known or no proper answer. -/
theorem extend (sound : Sound sha256 system) {after : System} {event : Event}
    (history : after.history = system.history ++ [event])
    (built : after.provider.built = system.provider.built)
    (entries : ∀ entry ∈ after.provider.clients.items,
      entry ∈ system.provider.clients.items ∧ event ≠ .invalidated entry.key)
    (answers : ∀ id key cfg client,
      after.calls id = some ⟨key, cfg, .answered (.ok client)⟩ →
        system.calls id = some ⟨key, cfg, .answered (.ok client)⟩)
    (calls : ∀ id, (system.calls id).isSome = true →
      (after.calls id).isSome = true ∧ ∀ key cfg, event ≠ .started id key cfg)
    (cached : ∀ key client, event = .cached key client →
      client.id < system.provider.built.length)
    (returned : ∀ id key cfg client, event = .returned id key cfg (.ok client) →
      client.Suits sha256 cfg ∧ ¬Stale system.history id key client ∧
        (system.calls id).isSome = true) :
    Sound sha256 after := by
  have fresh {id : Nat} {key : String} {client : Client} (called : (system.calls id).isSome = true)
      (fresh : ¬Stale system.history id key client) : ¬Stale after.history id key client := by
    rw [history]
    intro stale
    rcases stale.concat with old | ⟨cfg, same⟩
    · exact fresh old
    · exact (calls id called).2 key cfg same.symm
  refine ⟨?_, ?_, ?_, ?_⟩
  · intro entry membership
    obtain ⟨old, spared⟩ := entries entry membership
    obtain ⟨honest, kept⟩ := sound.entries entry old
    refine ⟨honest, fun dropped => ?_⟩
    rw [history] at dropped
    rcases dropped.concat with earlier | ⟨same, _⟩
    · exact kept earlier
    · exact spared same.symm
  · intro key client membership
    rw [built]
    rw [history] at membership
    rcases List.mem_append.mp membership with old | new
    · exact sound.ids key client old
    · exact cached key client (List.mem_singleton.mp new).symm
  · intro id key cfg client isAnswered
    have earlier := answers id key cfg client isAnswered
    obtain ⟨suits, kept⟩ := sound.answered id key cfg client earlier
    exact ⟨suits, fresh (by rw [earlier]; rfl) kept⟩
  · intro id key cfg client membership
    rw [history] at membership
    have proper : client.Suits sha256 cfg ∧ ¬Stale system.history id key client ∧
        (system.calls id).isSome = true := by
      rcases List.mem_append.mp membership with old | new
      · exact sound.returned id key cfg client old
      · exact returned id key cfg client (List.mem_singleton.mp new).symm
    exact ⟨proper.1, fresh proper.2.2 proper.2.1, (calls id proper.2.2).1⟩

/-- Nothing was logged yet of the client that is built next. -/
theorem unseen (sound : Sound sha256 system) (key : String) (cfg : ClientConfig) :
    ¬Dropped system.history key ⟨system.provider.built.length, cfg⟩ := by
  intro dropped
  have logged : .cached key ⟨system.provider.built.length, cfg⟩ ∈ system.history :=
    dropped.subset List.mem_cons_self
  exact Nat.lt_irrefl _ (sound.ids _ _ logged)

/-- A new client is built and cached. -/
theorem create (sound : Sound sha256 system) (key : String) (cfg : ClientConfig) :
    let client : Client := ⟨system.provider.built.length, cfg⟩
    Sound sha256 { system with
      provider :=
        { clients := system.provider.clients.insert
            ⟨key, client, cfg.host, cfg.fingerprint sha256, false⟩
          built := system.provider.built ++ [client] }
      history := system.history ++ [.cached key client] } := by
  intro client
  have created : Sound sha256 { system with
      provider :=
        { clients := system.provider.clients.insert
            ⟨key, client, cfg.host, cfg.fingerprint sha256, false⟩
          built := system.provider.built ++ [client] } } := by
    refine ⟨?_, ?_, sound.answered, sound.returned⟩
    · intro entry membership
      rcases Store.mem_insert.mp membership with rfl | ⟨old, _⟩
      · exact ⟨⟨rfl, rfl, rfl⟩, sound.unseen key cfg⟩
      · exact sound.entries entry old
    · intro other old membership
      rw [List.length_append]
      exact Nat.lt_add_right 1 (sound.ids other old membership)
  refine created.extend rfl rfl (fun entry membership => ⟨membership, nofun⟩) (fun _ _ _ _ => id)
    (fun _ called => ⟨called, nofun⟩) ?_ nofun
  intro other known same
  cases same
  simp [client]

theorem start (sound : Sound sha256 system) {id : Nat} (unused : system.calls id = none)
    (key : String) (cfg : ClientConfig) :
    Sound sha256 { system.move id ⟨key, cfg, .started⟩ .started with
      history := system.history ++ [.started id key cfg] } := by
  refine sound.extend rfl rfl (fun entry membership => ⟨membership, nofun⟩) ?_ ?_ nofun nofun
  · intro other otherKey otherCfg client isAnswered
    by_cases same : other = id
    · subst same
      simp [System.move] at isAnswered
    · simpa only [System.move, Function.update_of_ne same] using isAnswered
  · intro other called
    have differs : other ≠ id := by
      rintro rfl
      rw [unused] at called
      contradiction
    refine ⟨?_, fun _ _ same => ?_⟩
    · simpa only [System.move, Function.update_of_ne differs] using called
    · cases same
      exact differs rfl

theorem invalidate (sound : Sound sha256 system) (key : String) :
    Sound sha256 { system with
      provider := system.provider.invalidate key
      history := system.history ++ [.invalidated key] } := by
  refine sound.extend rfl rfl ?_ (fun _ _ _ _ => id) (fun _ called => ⟨called, nofun⟩) nofun nofun
  intro entry membership
  obtain ⟨old, differs⟩ := Store.mem_erase.mp membership
  refine ⟨old, fun same => ?_⟩
  cases same
  exact differs rfl

theorem respond (sound : Sound sha256 system) {id : Nat} {key : String} {cfg : ClientConfig}
    {answer : Except ApiError Client}
    (isAnswered : system.calls id = some ⟨key, cfg, .answered answer⟩) :
    Sound sha256 { system.move id ⟨key, cfg, .answered answer⟩ .returned with
      history := system.history ++ [.returned id key cfg answer] } := by
  have logged : Sound sha256
      { system with history := system.history ++ [.returned id key cfg answer] } := by
    refine sound.extend rfl rfl (fun entry membership => ⟨membership, nofun⟩)
      (fun _ _ _ _ same => same) (fun _ called => ⟨called, nofun⟩) nofun ?_
    intro other otherKey otherCfg client same
    cases same
    obtain ⟨suits, fresh⟩ := sound.answered id key cfg client isAnswered
    exact ⟨suits, fresh, by rw [isAnswered]; rfl⟩
  exact logged.move id _ nofun

theorem lock (sound : Sound sha256 system) (id : Nat) (key : String) (cfg : ClientConfig)
    (failure : Option ApiError) :
    let result := system.provider.lockedGetOrCreate sha256 key cfg failure
    Sound sha256 { system.move id ⟨key, cfg, .missed⟩ (.answered result.1) with
      provider := result.2
      history := system.history ++
        (result.2.built.drop system.provider.built.length).map (.cached key) } := by
  rcases lockedGetOrCreate_cases sha256 system.provider key cfg failure with
    ⟨entry, membership, rfl, serves, result⟩ | ⟨failed, result⟩ | result
  · rw [result]
    simp only [List.drop_length, List.map_nil, List.append_nil]
    apply sound.move id
    intro client same
    cases same
    exact sound.hit membership serves id
  · rw [result]
    simp only [List.drop_length, List.map_nil, List.append_nil]
    exact sound.move id _ nofun
  · rw [result]
    simp only [List.drop_left, List.map_cons, List.map_nil]
    apply (sound.create key cfg).move id
    intro client same
    cases same
    refine ⟨⟨rfl, rfl⟩, fun stale => ?_⟩
    rcases stale.concat with old | ⟨_, same⟩
    · exact sound.unseen key cfg old.dropped
    · cases same

theorem step (sound : Sound sha256 system) (step : Step) :
    Sound sha256 (system.step sha256 step) := by
  cases step with
  | start id key cfg =>
      simp only [System.step]
      split
      · exact sound
      · next unused => exact sound.start unused key cfg
  | read id =>
      simp only [System.step]
      split
      · next key cfg isStarted =>
          apply sound.move id
          intro client isAnswer
          simp only [System.looked] at isAnswer
          split at isAnswer
          · next found =>
              cases isAnswer
              obtain ⟨entry, membership, rfl, serves, rfl⟩ := cached_eq_some.mp found
              exact sound.hit membership serves id
          · cases isAnswer
      · exact sound
  | lock id failure =>
      simp only [System.step]
      split
      · next key cfg isMissed => exact sound.lock id key cfg failure
      · exact sound
  | respond id =>
      simp only [System.step]
      split
      · next key cfg answer isAnswered => exact sound.respond isAnswered
      · exact sound
  | invalidate key => exact sound.invalidate key

end Sound

/-! ## Whole runs -/

/-- In every interleaving of calls and invalidations: a returned client was built for
settings like those of the call, and was not cached under the key before an
invalidation that the call started after; a call that fails leaves the cache as it
was; and a key has at most one entry. -/
theorem run_serves_own_settings (sha256 : String → String) (steps : List Step) :
    let system := run (System.step sha256) {} steps
    (∀ id key cfg client, .returned id key cfg (.ok client) ∈ system.history →
      client.config.host = cfg.host ∧
        client.config.fingerprint sha256 = cfg.fingerprint sha256) ∧
    (∀ id key cfg client, .returned id key cfg (.ok client) ∈ system.history →
      ¬List.Sublist [.cached key client, .invalidated key, .started id key cfg]
        system.history) ∧
    (∀ id failure (call : Call) failed,
      (system.step sha256 (.lock id failure)).calls id =
          some { call with phase := .answered (.error failed) } →
        (system.step sha256 (.lock id failure)).provider = system.provider) ∧
    ∀ key, (system.provider.clients.items.filter fun entry => entry.key = key).length ≤ 1 := by
  intro system
  have sound : Sound sha256 system :=
    run_invariant (P := Sound sha256) (fun _ step sound => sound.step step) .initial steps
  refine ⟨?_, ?_, ?_, ?_⟩
  · intro id key cfg client returned
    exact (sound.returned id key cfg client returned).1
  · intro id key cfg client returned ordered
    exact (sound.returned id key cfg client returned).2.1 ⟨cfg, ordered⟩
  · intro id failure call failed
    simp only [System.step]
    split
    · next key cfg isMissed =>
        intro answers
        rcases lockedGetOrCreate_cases sha256 system.provider key cfg failure with
          ⟨entry, _, _, _, result⟩ | ⟨_, result⟩ | result
        · rw [result]
        · rw [result]
        · rw [result] at answers
          simp [System.move] at answers
    · exact fun _ => rfl
  · exact fun key => system.provider.clients.length_filter_key key

end KubeShard.Secondary
