import ReviewDesk.Desk.Basic

/-!
# Following a task

A task is read through its `outcome`: the value or the failure that it gives, and the desk that it
leaves. There is one equation for each way of putting tasks together and for each thing that the
desk does on its own, so that longer tasks are followed without opening the monad again.
-/
namespace ReviewDesk.Desk

variable {σ α β : Type}

/-- What a task gives, and the desk that it leaves. -/
def outcome (t : Task σ α) (d : Desk σ) : Except Failure α × Desk σ := t.run.run d

@[simp] theorem outcome_pure (a : α) (d : Desk σ) : outcome (pure a) d = (.ok a, d) := rfl

theorem outcome_bind (t : Task σ α) (next : α → Task σ β) (d : Desk σ) :
    outcome (t >>= next) d =
      match outcome t d with
      | (.ok a, d') => outcome (next a) d'
      | (.error failure, d') => (.error failure, d') := by
  change (t.run.run d >>= fun p => (ExceptT.bindCont next p.1).run p.2) = _
  unfold outcome
  rcases t.run.run d with ⟨_ | _, d'⟩ <;> rfl

/-- A task that goes on after a first part that gives a value. -/
theorem outcome_bind_ok {t : Task σ α} {next : α → Task σ β} {d d' : Desk σ} {a : α}
    (h : outcome t d = (.ok a, d')) : outcome (t >>= next) d = outcome (next a) d' := by
  rw [outcome_bind, h]

/-- A task that ends with the failure of its first part. -/
theorem outcome_bind_error {t : Task σ α} {next : α → Task σ β} {d d' : Desk σ}
    {failure : Failure} (h : outcome t d = (.error failure, d')) :
    outcome (t >>= next) d = (.error failure, d') := by
  rw [outcome_bind, h]

theorem outcome_bind_eq_ok_iff {t : Task σ α} {next : α → Task σ β} {d d' : Desk σ} {b : β} :
    outcome (t >>= next) d = (.ok b, d') ↔
      ∃ a between, outcome t d = (.ok a, between) ∧ outcome (next a) between = (.ok b, d') := by
  rw [outcome_bind]
  rcases outcome t d with ⟨failure | a, between⟩
  · simp
  · constructor
    · exact fun h => ⟨a, between, rfl, h⟩
    · rintro ⟨_, _, ⟨⟩, h⟩
      exact h

@[simp] theorem outcome_get (d : Desk σ) : outcome get d = (.ok d, d) := rfl

variable (d : Desk σ)

@[simp] theorem outcome_fail (failure : Failure) :
    outcome (fail failure : Task σ α) d = (.error failure, d) := rfl

@[simp] theorem outcome_clock : outcome clock d = (.ok d.now, d) := rfl

@[simp] theorem outcome_freshId :
    outcome freshId d = (.ok (d.ids d.used), { d with used := d.used + 1 }) := rfl

theorem outcome_look (query : Store → Except Store.Fault α) :
    outcome (look query) d = ((query d.store).mapError .store, d) := by
  rw [look, outcome_bind_ok (outcome_get d)]
  cases query d.store <;> rfl

theorem outcome_change_ok {operation : Store → Except Store.Fault (α × Store)} {a : α}
    {store : Store} (h : operation d.store = .ok (a, store)) :
    outcome (change operation) d = (.ok a, { d with store }) := by
  rw [change, outcome_bind_ok (outcome_get d), h]
  rfl

theorem outcome_change_error {operation : Store → Except Store.Fault (α × Store)}
    {fault : Store.Fault} (h : operation d.store = .error fault) :
    outcome (change operation) d = (.error (.store fault), d) := by
  rw [change, outcome_bind_ok (outcome_get d), h]
  rfl

@[simp] theorem outcome_adjust (operation : Store → α × Store) :
    outcome (adjust operation) d =
      (.ok (operation d.store).1, { d with store := (operation d.store).2 }) :=
  outcome_change_ok d rfl

theorem outcome_saveAccount_ok {a row : Account} {store : Store}
    (h : d.store.saveAccount d.now a = .ok (row, store)) :
    outcome (saveAccount a) d = (.ok row, { d with store }) := by
  rw [saveAccount, outcome_bind_ok (outcome_clock d)]
  exact outcome_change_ok d h

theorem outcome_saveAccount_error {a : Account} {fault : Store.Fault}
    (h : d.store.saveAccount d.now a = .error fault) :
    outcome (saveAccount a) d = (.error (.store fault), d) := by
  rw [saveAccount, outcome_bind_ok (outcome_clock d)]
  exact outcome_change_error d h

/-- GitHub is asked at its own place only. -/
theorem outcome_askGitHub (call : GitHub.Call α) :
    outcome (askGitHub call) d =
      ((call.run d.github).1.mapError .github, { d with github := (call.run d.github).2 }) := by
  rw [askGitHub, outcome_bind_ok (outcome_get d)]
  rcases call.run d.github with ⟨_ | _, github⟩ <;> rfl

theorem outcome_askGitHub_ok {call : GitHub.Call α} {a : α} {github : Http.Peer}
    (h : call.run d.github = (.ok a, github)) :
    outcome (askGitHub call) d = (.ok a, { d with github }) := by
  rw [outcome_askGitHub, h]
  rfl

theorem outcome_askGitHub_error {call : GitHub.Call α} {fault : GitHub.Fault} {github : Http.Peer}
    (h : call.run d.github = (.error fault, github)) :
    outcome (askGitHub call) d = (.error (.github fault), { d with github }) := by
  rw [outcome_askGitHub, h]
  rfl

@[simp] theorem outcome_askModel (run : Model.Run σ α) :
    outcome (askModel run) d =
      (.ok (run.run d.model).1, { d with model := (run.run d.model).2 }) := rfl

@[simp] theorem outcome_checked_good (a : α) :
    outcome (checked (.good a)) d = (.ok a, d) := rfl

end ReviewDesk.Desk
