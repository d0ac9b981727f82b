import Bearer.Proofs.Builder.Calls

/-!
Clients of all modes that one builder makes. A builder is refused by a failure of the set-up
(`kind_of_resolve`) before the mode counts, and if it is complete then its clients are made of the same parts.
Only the HTTP client brings failures that are none of the set-up: a proxy of the environment that it refuses, a
package that is missing, certificates that cannot be loaded. `Outcome` lists the three cases, and
`modes_build_alike` says that there is no other.
-/

namespace Bearer

open Json (Members)

/-! ### Refused values -/

namespace Checked

def Explained (a : Checked α) : Prop := ∀ issues, a = .error issues → issues ≠ []

theorem Explained.both {a : Checked α} {b : Checked β} (ha : a.Explained) (hb : b.Explained) :
    (a.both b).Explained := by
  intro issues refused
  cases a with
  | ok x =>
    cases b with
    | ok y => cases refused
    | error es =>
      obtain rfl := Except.error.inj refused
      exact hb es rfl
  | error es =>
    cases b with
    | ok y =>
      obtain rfl := Except.error.inj refused
      exact ha es rfl
    | error fs =>
      obtain rfl := Except.error.inj refused
      exact List.append_ne_nil_of_left_ne_nil (ha es rfl) fs

theorem Explained.map {a : Checked α} (h : a.Explained) (f : α → β) : Explained (a.map f) :=
  fun issues refused => h issues (map_eq_error_iff.1 refused)

theorem Explained.withIssues {a : Checked α} (h : a.Explained) (more : List Issue) :
    (a.withIssues more).Explained := by
  intro issues refused
  cases a with
  | ok x =>
    cases more with
    | nil => cases refused
    | cons issue more =>
      obtain rfl := Except.error.inj refused
      simp
  | error es =>
    have refused : (Except.error (es ++ more) : Checked α) = .error issues := by
      cases more <;> exact refused
    obtain rfl := Except.error.inj refused
    exact List.append_ne_nil_of_left_ne_nil (h es rfl) more

end Checked

namespace Field

variable {fields : Members} {name : String} {read : Read α}

theorem explained_atField (name : String) (r : Except Refusal α) : (atField name r).Explained := by
  intro issues refused
  cases r with
  | ok x => cases refused
  | error why =>
    obtain rfl := Except.error.inj refused
    simp

theorem explained_required : (required fields name read).Explained := by
  unfold required
  split
  · intro issues refused
    obtain rfl := Except.error.inj refused
    simp
  · exact explained_atField name _

theorem explained_withDefault {default : α} : (withDefault fields name default read).Explained := by
  unfold withDefault
  split
  · nofun
  · exact explained_atField name _

end Field

namespace Endpoint

variable {fields : Members} {e : Error}

theorem explained_readFields : (readFields fields).Explained := by
  unfold readFields
  refine Checked.Explained.withIssues (.map (.both Field.explained_required ?_) _) _
  refine .both Field.explained_withDefault (.both Field.explained_withDefault ?_)
  exact .both Field.explained_withDefault (.both Field.explained_withDefault Field.explained_withDefault)

/-- The values are checked together only after each of them was read. -/
theorem not_fields_of_check {e : Endpoint} {issues : List Issue} : e.check ≠ .error (.fields issues) := by
  intro refused
  unfold check at refused
  split at refused
  · split at refused
    · cases refused
    · obtain ⟨_, -, url⟩ := mapError_eq_error_iff.1 refused
      cases url
  · obtain ⟨_, -, url⟩ := mapError_eq_error_iff.1 refused
    cases url

theorem issues_of_ofFields {issues : List Issue} (refused : ofFields fields = .error (.fields issues)) :
    issues ≠ [] := by
  rcases bind_eq_error_iff.1 refused with unread | ⟨e, -, unchecked⟩
  · obtain ⟨_, read, same⟩ := mapError_eq_error_iff.1 unread
    obtain rfl := Error.fields.inj same
    exact explained_readFields _ read
  · rcases bind_eq_error_iff.1 unchecked with unchecked | ⟨_, -, returned⟩
    · exact absurd unchecked not_fields_of_check
    · cases returned

theorem kind_of_refusal {refusal : UrlRefusal} :
    (Error.url refusal).toFailure.issues ≠ [] ∨ (Error.url refusal).toFailure.kind = .initialization := by
  cases refusal with
  | host e => exact .inl (List.cons_ne_nil _ _)
  | _ => exact .inr rfl

theorem kind_of_ofFields (refused : ofFields fields = .error e) :
    e.toFailure.issues ≠ [] ∨ e.toFailure.kind = .initialization := by
  cases e with
  | fields issues => exact .inl (issues_of_ofFields refused)
  | parameterWithPost => exact .inr rfl
  | url refusal => exact kind_of_refusal

end Endpoint

namespace Builder

variable {b : Builder} {mode : Mode} {env : Environment} {f : Failure}

/-! ### Failures -/

theorem kind_of_makeEndpoint (failed : b.makeEndpoint = .error f) : f.kind = .initialization := by
  unfold makeEndpoint at failed
  split at failed
  · cases failed
  next e refused =>
    obtain rfl := Except.error.inj failed
    -- issues are told as a failure of the set-up, and whatever comes without them is one
    rcases Endpoint.kind_of_ofFields refused with issues | kind
    · rw [if_neg (by simpa using issues)]
      rfl
    · split
      · exact kind
      · rfl

theorem kind_of_resolve (failed : b.resolve = .error f) : f.kind = .initialization := by
  unfold resolve at failed
  split at failed
  · obtain rfl := Except.error.inj failed
    rfl
  · obtain rfl := Except.error.inj failed
    rfl
  · exact kind_of_makeEndpoint (map_eq_error_iff.1 failed)

theorem kind_of_httpClient (e : HttpClient.Error) : e.toFailure.kind ≠ .initialization := by
  cases e <;> exact nofun

/-! ### Modes -/

structure MadeOf (b : Builder) (machine : Machine) (e : Endpoint) (p : Provider) (built : Built) : Prop where
  endpoint : built.session.client.endpoint = e
  provider : built.provider = p
  parser : built.session.client.parser = p.fields.toParser machine.nesting
  maxResponseBytes : built.session.client.maxResponseBytes = b.maxResponseBytes
  salt : built.session.client.salt = b.salt
  timeout : built.timeout = b.httpTimeout
  budget : ∀ budget, b.retryBudget = some budget → built.session.client.budget = budget

inductive Outcome (b : Builder) (machine : Machine) (env : Environment) : Prop
  | refused (f : Failure) (kind : f.kind = .initialization) (incomplete : ¬ ∃ e p, b.Resolves e p)
      (all : ∀ mode lent, b.build mode env machine lent = .error f)
  | unconnected (e : Endpoint) (p : Provider) (complete : b.Resolves e p) (refusal : HttpClient.Error)
      (refused : HttpClient.make machine env = .error refusal)
      (own : ∀ mode lent, ownsConnection mode lent = true →
        b.build mode env machine lent = .error refusal.toFailure)
      (lent : ∀ mode lent, ownsConnection mode lent = false →
        ∃ built, b.build mode env machine lent = .ok built ∧ b.MadeOf machine e p built)
  | made (e : Endpoint) (p : Provider) (complete : b.Resolves e p) (passed : HttpClient.make machine env = .ok ())
      (all : ∀ mode lent, ∃ built, b.build mode env machine lent = .ok built ∧ b.MadeOf machine e p built)

variable {machine : Machine} {lent : Bool}

theorem connect_eq_ok_iff {owned : Bool} :
    connect owned machine env = .ok () ↔ (owned = true → HttpClient.make machine env = .ok ()) := by
  cases owned with
  | false => exact iff_of_true rfl nofun
  | true =>
    rw [connect, if_pos rfl, mapError_eq_ok_iff]
    exact ⟨fun made _ => made, fun made => made rfl⟩

theorem build_of_connect {e : Endpoint} {p : Provider} (resolved : b.resolve = .ok (e, p))
    (connected : connect (ownsConnection mode lent) machine env = .ok ()) :
    ∃ built, b.build mode env machine lent = .ok built ∧ b.MadeOf machine e p built := by
  rw [build_of_resolve resolved, connected]
  exact ⟨_, rfl, rfl, rfl, rfl, rfl, rfl, rfl, fun budget given => by simp [assemble, given]⟩

theorem build_of_refusal {e : Endpoint} {p : Provider} {refusal : HttpClient.Error} (resolved : b.resolve = .ok (e, p))
    (refused : HttpClient.make machine env = .error refusal) (owned : ownsConnection mode lent = true) :
    b.build mode env machine lent = .error refusal.toFailure := by
  rw [build_of_resolve resolved, owned, connect, if_pos rfl, refused]
  rfl

theorem outcome (b : Builder) (machine : Machine) (env : Environment) : b.Outcome machine env := by
  cases resolved : b.resolve with
  | error f =>
    refine .refused f (kind_of_resolve resolved) ?_ fun mode lent => bind_eq_error_iff.2 (.inl resolved)
    rintro ⟨e, p, complete⟩
    cases resolved.symm.trans (resolve_eq_ok_iff.2 complete)
  | ok made =>
    have complete := resolve_eq_ok_iff.1 resolved
    cases connected : HttpClient.make machine env with
    | error refusal =>
      refine .unconnected made.1 made.2 complete refusal connected
        (fun mode lent => build_of_refusal resolved connected) fun mode lent borrowed =>
          build_of_connect resolved (connect_eq_ok_iff.2 fun owned => ?_)
      cases borrowed.symm.trans owned
    | ok _ =>
      exact .made made.1 made.2 complete connected fun mode lent =>
        build_of_connect resolved (connect_eq_ok_iff.2 fun _ => connected)

/-! ### Builders that are used -/

inductive Use where
  | set (s : Setting)
  | build (mode : Mode) (env : Environment) (machine : Machine) (lent : Bool)

def Use.setting? : Use → Option Setting
  | .set s => some s
  | .build .. => none

def run (b : Builder) : List Use → Builder × List (Except Failure Built)
  | [] => (b, [])
  | .set s :: uses => (b.call s).run uses
  | .build mode env machine lent :: uses =>
    let (after, built) := b.run uses
    (after, b.build mode env machine lent :: built)

/-- Building leaves nothing in a builder. -/
theorem run_state (b : Builder) (uses : List Use) : (b.run uses).1 = b.after (uses.filterMap Use.setting?) := by
  induction uses generalizing b with
  | nil => rfl
  | cons use uses ih =>
    cases use with
    | set s => exact ih (b.call s)
    | build mode env machine lent => exact ih b

/-- What is built on the way is what the builder of the calls before it builds. -/
theorem mem_run {uses : List Use} {result : Except Failure Built} :
    result ∈ (b.run uses).2 ↔ ∃ before mode env machine lent later,
      uses = before ++ .build mode env machine lent :: later ∧
        result = (b.after (before.filterMap Use.setting?)).build mode env machine lent := by
  induction uses generalizing b with
  | nil => simp [run]
  | cons use uses ih =>
    cases use with
    | set s =>
      rw [run, ih]
      constructor
      · rintro ⟨before, mode, env, machine, lent, later, rfl, rfl⟩
        exact ⟨.set s :: before, mode, env, machine, lent, later, rfl, rfl⟩
      · rintro ⟨before, mode, env, machine, lent, later, whole, rfl⟩
        cases before with
        | nil => cases whole
        | cons first before =>
          obtain ⟨rfl, rfl⟩ := List.cons.inj whole
          exact ⟨before, mode, env, machine, lent, later, rfl, rfl⟩
    | build mode env machine lent =>
      rw [run, List.mem_cons, ih]
      constructor
      · rintro (rfl | ⟨before, mode', env', machine', lent', later, rfl, rfl⟩)
        · exact ⟨[], mode, env, machine, lent, uses, rfl, rfl⟩
        · exact ⟨.build mode env machine lent :: before, mode', env', machine', lent', later, rfl, rfl⟩
      · rintro ⟨before, mode', env', machine', lent', later, whole, rfl⟩
        cases before with
        | nil =>
          obtain ⟨same, rfl⟩ := List.cons.inj whole
          cases same
          exact .inl rfl
        | cons first before =>
          obtain ⟨rfl, rfl⟩ := List.cons.inj whole
          exact .inr ⟨before, mode', env', machine', lent', later, rfl, rfl⟩

/-- Builds of all modes are refused alike, by a failure of the set-up or as the HTTP client cannot be made, or
make clients of the same parts; a client that is lent its connection does not depend on that. They leave nothing in
the builder, whatever it is used for. -/
theorem modes_build_alike (b : Builder) (machine : Machine) (env : Environment) :
    b.Outcome machine env ∧
    ∀ uses, (b.run uses).1 = b.after (uses.filterMap Use.setting?) ∧
      ∀ result, result ∈ (b.run uses).2 ↔ ∃ before mode env machine lent later,
        uses = before ++ .build mode env machine lent :: later ∧
          result = (b.after (before.filterMap Use.setting?)).build mode env machine lent :=
  ⟨b.outcome machine env, fun uses => ⟨run_state b uses, fun _ => mem_run⟩⟩

theorem resolve_googleV3 : googleV3.resolve = .ok
    ({ endpoint := Endpoint.googleUrl, queryParameter := some Endpoint.accessTokenParameter }, .googleV3) := by
  decide +kernel

/-- Without a proxy a preset makes clients of all modes. -/
theorem modes_build_alike_googleV3 :
    ∃ e p, ∀ mode, ∃ built, googleV3.build mode [] = .ok built ∧ googleV3.MadeOf {} e p built := by
  have passed : HttpClient.make {} [] = .ok () := by decide +kernel
  cases (modes_build_alike googleV3 {} []).1 with
  | refused f kind incomplete all => exact absurd ⟨_, _, resolve_eq_ok_iff.1 resolve_googleV3⟩ incomplete
  | unconnected e p complete refusal refused own lent => cases passed.symm.trans refused
  | made e p complete passed all => exact ⟨e, p, fun mode => all mode false⟩

/-- A proxy whose port is no number is refused, and no failure of the set-up says so. -/
theorem not_every_build_failure_of_set_up :
    ¬ ∀ (b : Builder) (mode : Mode) (env : Environment) (f : Failure),
      b.build mode env = .error f → f.kind = .initialization := by
  intro always
  have refused : HttpClient.make {} [("HTTP_PROXY", "http://proxy.example:port")] =
      .error (.invalidUrl (.port "port")) := by
    decide +kernel
  have failed : googleV3.build .blocking _ = .error _ := build_of_refusal resolve_googleV3 refused rfl
  exact kind_of_httpClient _ (always _ _ _ _ failed)

end Builder

end Bearer
