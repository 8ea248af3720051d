import PalBeacon.Cloud.Bindings

namespace PalBeacon.Cloud
open PalBeacon.Lib
open BindingStore (handle)
set_option autoImplicit true

/-- The keys of the two tables, and that principals are known by the subject they were noted
under. -/
structure SoundBindings (store : BindingStore) : Prop where
  owners : (store.bindings.map BindingRow.ownerSubject).Nodup
  places : ∀ a ∈ store.bindings, ∀ b ∈ store.bindings, a.place = b.place →
    a.ownerSubject = b.ownerSubject
  principals : ∀ row ∈ store.principals, row.accessSubject = "verified:" ++ row.principalId

/-- Another owner subject has a binding for a member and world, in use or revoked. -/
def Taken (store : BindingStore) (ownerSubject : String) (place : String × String)
    (active : Bool) : Prop :=
  ∃ other ∈ store.bindings, other.ownerSubject ≠ ownerSubject ∧ other.place = place ∧
    other.active = active

def Binds (ownerSubject : String)
    (t : Transition BindingStore BindingCall (Except ApiError BindingAnswer)) : Prop :=
  (∃ input, t.input.body = .upsert (.ok input) ∧ input.ownerSubject = ownerSubject) ∧
    ∃ answer, t.output = .ok answer

def Revoked (ownerSubject : String) (store : BindingStore) : Prop :=
  ∀ row ∈ store.bindings, row.ownerSubject = ownerSubject → row.active = false

section Statements
variable {store next : BindingStore}

theorem upsertPrincipal_spec (h : SoundBindings store) (principal : PrincipalContext)
    (now : String) : ∃ next, store.upsertPrincipal principal now = .ok next ∧
      next.bindings = store.bindings ∧ principal.hex ∈ next.principalIds ∧ SoundBindings next := by
  rw [BindingStore.upsertPrincipal]
  cases hrow : lookup PrincipalRow.accessSubject
      (BindingStore.accessSubject principal.toPrincipal) store.principals with
  | some row =>
    obtain ⟨hmem, hsubject⟩ := lookup_mem hrow
    have hid : row.principalId = principal.hex := by
      have he := (h.principals row hmem).symm.trans hsubject
      exact (String.append_right_inj _).1 he
    refine ⟨_, rfl, rfl, ?_, h.owners, h.places, ?_⟩
    · exact List.mem_map.2 ⟨_, self_mem_put hmem rfl, hid⟩
    · intro other hother
      rcases mem_put hother with rfl | ⟨hother, -⟩
      · exact h.principals row hmem
      · exact h.principals other hother
  | none =>
    have hnew : principal.hex ∉ store.principalIds := by
      intro hmem
      obtain ⟨row, hrowMem, hid⟩ := List.mem_map.1 hmem
      apply lookup_eq_none.1 hrow row hrowMem
      rw [h.principals row hrowMem, hid]
      rfl
    dsimp only
    rw [ensure_eq_ok.2 (decide_eq_true hnew)]
    refine ⟨_, rfl, rfl, ?_, h.owners, h.places, ?_⟩
    · exact List.mem_map.2 ⟨_, List.mem_append_right _ List.mem_cons_self, rfl⟩
    · intro other hother
      rcases List.mem_append.1 hother with hother | hother
      · exact h.principals other hother
      · rw [List.mem_singleton.1 hother]
        rfl

def PlaceFree (store : BindingStore) (row : BindingRow) : Prop :=
  ∀ other ∈ store.bindings, other.place = row.place → other.ownerSubject = row.ownerSubject

theorem placeFree_iff {row : BindingRow} : PlaceFree store row ↔
    (!(store.bindings.any fun other =>
      other.ownerSubject ≠ row.ownerSubject && other.place = row.place)) = true := by
  simp only [PlaceFree, Bool.not_eq_true', List.any_eq_false, Bool.and_eq_true, decide_eq_true_eq]
  grind

theorem upsertBinding_eq_ok {row : BindingRow} (hprincipal : row.principalId ∈ store.principalIds)
    (hoperator : row.boundByPrincipalId ∈ store.principalIds) :
    (∃ next, store.upsertBinding row = .ok next) ↔ PlaceFree store row := by
  rw [placeFree_iff, BindingStore.upsertBinding, decide_eq_true hprincipal,
    decide_eq_true hoperator]
  constructor
  · rintro ⟨next, hnext⟩
    exact ensure_eq_ok.1 (check_bind_eq_ok.1 (check_bind_eq_ok.1 hnext).2).1
  · intro hfree
    rw [hfree]
    exact ⟨_, rfl⟩

theorem upsertBinding_effect {row : BindingRow} (h : store.upsertBinding row = .ok next) :
    next.principals = store.principals ∧ PlaceFree store row ∧ row ∈ next.bindings ∧
      (∀ other ∈ next.bindings, other = row ∨
        other ∈ store.bindings ∧ other.ownerSubject ≠ row.ownerSubject) ∧
      ((store.bindings.map BindingRow.ownerSubject).Nodup →
        (next.bindings.map BindingRow.ownerSubject).Nodup) := by
  simp only [BindingStore.upsertBinding, check_bind_eq_ok, ensure_eq_ok] at h
  obtain ⟨-, hfree, h⟩ := h
  cases h
  refine ⟨rfl, placeFree_iff.2 hfree, ?_⟩
  dsimp only
  split
  · next hold =>
    obtain ⟨old, hmem, hkey⟩ := List.mem_map.1 hold
    refine ⟨self_mem_put hmem hkey, fun other hother => mem_put hother, ?_⟩
    rw [map_key_put]
    exact id
  · next hnew =>
    refine ⟨List.mem_append_right _ List.mem_cons_self, ?_, ?_⟩
    · intro other hother
      rcases List.mem_append.1 hother with hother | hother
      · exact .inr ⟨hother, fun he => hnew (he ▸ List.mem_map_of_mem hother)⟩
      · exact .inl (List.mem_singleton.1 hother)
    · intro hnodup
      rw [List.map_append, List.map_singleton]
      exact List.nodup_append.2 ⟨hnodup, List.nodup_singleton _, by
        rintro _ hother _ hlast rfl
        exact hnew (List.mem_singleton.1 hlast ▸ hother)⟩

theorem SoundBindings.upsert (h : SoundBindings store) {row : BindingRow}
    (hnext : store.upsertBinding row = .ok next) : SoundBindings next := by
  obtain ⟨hprincipals, hfree, -, hrows, hnodup⟩ := upsertBinding_effect hnext
  refine ⟨hnodup h.owners, ?_, hprincipals ▸ h.principals⟩
  intro a ha b hb hplace
  rcases hrows a ha with rfl | ⟨ha, -⟩
  · rcases hrows b hb with rfl | ⟨hb, -⟩
    · rfl
    · exact (hfree b hb hplace.symm).symm
  · rcases hrows b hb with rfl | ⟨hb, -⟩
    · exact hfree a ha hplace
    · exact h.places a ha b hb hplace

theorem mem_revokeBinding {row : BindingRow}
    (h : row ∈ (store.revokeBinding ownerSubject now).bindings) :
    ∃ old ∈ store.bindings, row.ownerSubject = old.ownerSubject ∧ row.place = old.place ∧
      (row.ownerSubject = ownerSubject → row.active = false) ∧
      (row.active = true → old.active = true) := by
  obtain ⟨old, hold, rfl⟩ := List.mem_map.1 h
  refine ⟨old, hold, ?_⟩
  split
  · exact ⟨rfl, rfl, fun _ => rfl, fun h => nomatch h⟩
  · next hne => exact ⟨rfl, rfl, fun he => absurd he hne, id⟩

theorem SoundBindings.revoke (h : SoundBindings store) (ownerSubject now : String) :
    SoundBindings (store.revokeBinding ownerSubject now) where
  owners := by
    have hkeys : (store.revokeBinding ownerSubject now).bindings.map BindingRow.ownerSubject =
        store.bindings.map BindingRow.ownerSubject := by
      apply map_key_map
      intro row
      split <;> rfl
    rw [hkeys]
    exact h.owners
  places a ha b hb hplace := by
    obtain ⟨a', ha', howner, hplaceA, -⟩ := mem_revokeBinding ha
    obtain ⟨b', hb', howner', hplaceB, -⟩ := mem_revokeBinding hb
    rw [howner, howner']
    exact h.places a' ha' b' hb' (hplaceA.symm.trans (hplace.trans hplaceB))
  principals := h.principals

theorem audited_spec (hactor : call.principal.hex ∈ store.principalIds) (action : String)
    (ownerSubject : String) (answer : BindingAnswer) :
    ∃ next, store.audited call action ownerSubject answer = (.ok answer, next) ∧
      next.bindings = store.bindings ∧ next.principals = store.principals := by
  rw [BindingStore.audited, BindingStore.insertAudit, ensure_eq_ok.2 (decide_eq_true hactor)]
  exact ⟨_, rfl, rfl, rfl⟩

theorem SoundBindings.of_eq (h : SoundBindings store) (hbindings : next.bindings = store.bindings)
    (hprincipals : next.principals = store.principals) : SoundBindings next :=
  ⟨hbindings ▸ h.owners, hbindings ▸ h.places, hprincipals ▸ h.principals⟩

end Statements

section Requests
variable {store : BindingStore} {call : BindingCall}

theorem opsUpsertBinding_spec (hactor : call.principal.hex ∈ store.principalIds)
    (hcheck : store.checkUpsert call body = .ok (input, member)) :
    (PlaceFree store (BindingStore.boundRow call input member) ∧
      ∃ written next, store.upsertBinding (BindingStore.boundRow call input member) = .ok written ∧
        next.bindings = written.bindings ∧ next.principals = written.principals ∧
        store.opsUpsertBinding call body = (.ok (.bound input.email input.worldId), next)) ∨
    (¬PlaceFree store (BindingStore.boundRow call input member) ∧
      store.opsUpsertBinding call body = (.error .internal, store)) := by
  have hmember : member ∈ store.principalIds := by
    have hchecks := hcheck
    simp only [BindingStore.checkUpsert, check_bind_eq_ok] at hchecks
    obtain ⟨_, -, hchecks⟩ := bind_eq_ok.1 hchecks.2
    obtain ⟨-, hchecks⟩ := check_bind_eq_ok.1 hchecks
    obtain ⟨found, hfound, he⟩ := bind_eq_ok.1 hchecks
    cases he
    obtain ⟨row, hrow, rfl⟩ := Option.map_eq_some_iff.1 (okOr_eq_ok.1 hfound)
    exact List.mem_map_of_mem (List.mem_of_find?_eq_some hrow)
  rw [BindingStore.opsUpsertBinding, hcheck]
  dsimp only
  by_cases hfree : PlaceFree store (BindingStore.boundRow call input member)
  · obtain ⟨written, hwritten⟩ := (upsertBinding_eq_ok hmember hactor).2 hfree
    have hkept : call.principal.hex ∈ written.principalIds := by
      rw [BindingStore.principalIds, (upsertBinding_effect hwritten).1]
      exact hactor
    obtain ⟨next, hnext, hbindings, hprincipals⟩ := audited_spec hkept "binding.upsert"
      input.ownerSubject (.bound input.email input.worldId)
    rw [hwritten]
    exact .inl ⟨hfree, written, next, rfl, hbindings, hprincipals, hnext⟩
  · cases hwritten : store.upsertBinding (BindingStore.boundRow call input member) with
    | error => exact .inr ⟨hfree, rfl⟩
    | ok written => exact absurd ((upsertBinding_eq_ok hmember hactor).1 ⟨written, hwritten⟩) hfree

theorem opsRevokeBinding_spec (hactor : call.principal.hex ∈ store.principalIds)
    (hcheck : BindingStore.checkRevoke call body = .ok ownerSubject) :
    ∃ next, store.opsRevokeBinding call body = (.ok .revoked, next) ∧
      next.bindings = (store.revokeBinding ownerSubject call.now).bindings ∧
      next.principals = store.principals := by
  have hkept : call.principal.hex ∈ (store.revokeBinding ownerSubject call.now).principalIds :=
    hactor
  rw [BindingStore.opsRevokeBinding, hcheck]
  exact audited_spec hkept "binding.revoke" ownerSubject .revoked

theorem handle_spec (h : SoundBindings store) (call : BindingCall) :
    ∃ noted, store.upsertPrincipal call.principal call.now = .ok noted ∧ SoundBindings noted ∧
      noted.bindings = store.bindings ∧ call.principal.hex ∈ noted.principalIds ∧
      handle store call = match call.body with
        | .upsert body => noted.opsUpsertBinding call body
        | .revoke body => noted.opsRevokeBinding call body := by
  obtain ⟨noted, hnoted, hbindings, hactor, hsound⟩ :=
    upsertPrincipal_spec h call.principal call.now
  refine ⟨noted, hnoted, hsound, hbindings, hactor, ?_⟩
  unfold handle
  cases call.body with
  | upsert body => rw [hnoted]
  | revoke body => rw [hnoted]

theorem handle_sound (h : SoundBindings store) (call : BindingCall) :
    SoundBindings (handle store call).2 := by
  obtain ⟨noted, -, hsound, -, hactor, heq⟩ := handle_spec h call
  rw [heq]
  cases call.body with
  | upsert body =>
    dsimp only
    cases hcheck : noted.checkUpsert call body with
    | error =>
      rw [BindingStore.opsUpsertBinding, hcheck]
      exact hsound
    | ok checked =>
      rcases opsUpsertBinding_spec hactor hcheck with
        ⟨-, written, next, hwritten, hbindings, hprincipals, heq⟩ | ⟨-, heq⟩
      · rw [heq]
        exact (hsound.upsert hwritten).of_eq hbindings hprincipals
      · rw [heq]
        exact hsound
  | revoke body =>
    dsimp only
    cases hcheck : BindingStore.checkRevoke call body with
    | error =>
      rw [BindingStore.opsRevokeBinding, hcheck]
      exact hsound
    | ok ownerSubject =>
      obtain ⟨next, heq, hbindings, hprincipals⟩ := opsRevokeBinding_spec hactor hcheck
      rw [heq]
      exact (hsound.revoke ownerSubject call.now).of_eq hbindings hprincipals

theorem handle_revoked (h : SoundBindings store) (hrevoked : Revoked ownerSubject store)
    (call : BindingCall) (hnot : ¬Binds ownerSubject (transition handle store call)) :
    Revoked ownerSubject (handle store call).2 := by
  obtain ⟨noted, -, -, hkept, hactor, heq⟩ := handle_spec h call
  have hnoted : Revoked ownerSubject noted := by
    intro row hrow
    exact hrevoked row (hkept ▸ hrow)
  rw [heq]
  cases hbody : call.body with
  | upsert body =>
    dsimp only
    rw [hbody] at heq
    dsimp only at heq
    cases hcheck : noted.checkUpsert call body with
    | error =>
      rw [BindingStore.opsUpsertBinding, hcheck]
      exact hnoted
    | ok checked =>
      rcases opsUpsertBinding_spec hactor hcheck with
        ⟨-, written, next, hwritten, hbindings, -, hnext⟩ | ⟨-, hnext⟩
      · have hinput : body = .ok checked.1 := by
          simp only [BindingStore.checkUpsert, check_bind_eq_ok] at hcheck
          obtain ⟨input, hinput, hcheck⟩ := bind_eq_ok.1 hcheck.2
          obtain ⟨-, hcheck⟩ := check_bind_eq_ok.1 hcheck
          obtain ⟨_, -, he⟩ := bind_eq_ok.1 hcheck
          cases he
          exact hinput
        have hother : checked.1.ownerSubject ≠ ownerSubject := by
          intro he
          have hanswer : (handle store call).1 = .ok
            (.bound checked.1.email checked.1.worldId) := by
            rw [heq, hnext]
          exact hnot ⟨⟨checked.1, hbody.trans (congrArg _ hinput), he⟩, _, hanswer⟩
        obtain ⟨-, -, -, hrows, -⟩ := upsertBinding_effect hwritten
        rw [hnext]
        intro row hrow howner
        rcases hrows row (hbindings ▸ hrow) with rfl | ⟨hold, -⟩
        · exact absurd howner hother
        · exact hnoted row hold howner
      · rw [hnext]
        exact hnoted
  | revoke body =>
    dsimp only
    cases hcheck : BindingStore.checkRevoke call body with
    | error =>
      rw [BindingStore.opsRevokeBinding, hcheck]
      exact hnoted
    | ok revoked =>
      obtain ⟨next, heq, hbindings, -⟩ := opsRevokeBinding_spec hactor hcheck
      rw [heq]
      intro row hrow howner
      obtain ⟨old, hold, howner', -, -, hactive⟩ := mem_revokeBinding (hbindings ▸ hrow)
      by_contra hne
      have hfalse := hnoted old hold (howner'.symm.trans howner)
      rw [hactive (Bool.eq_true_of_not_eq_false hne)] at hfalse
      cases hfalse

theorem activeProjection_ne_revoked (hrevoked : Revoked ownerSubject store)
    (h : activeProjection principalId store.bindings commits = some commit) :
    commit.ownerSubject ≠ ownerSubject := by
  rintro rfl
  have hmem := List.mem_of_head? h
  rw [List.mem_insertionSort, boundCommits, List.mem_flatMap] at hmem
  obtain ⟨binding, hbinding, hmem⟩ := hmem
  split at hmem
  · next hactive =>
    have hsame := (List.mem_filter.1 hmem).2
    simp only [Bool.and_eq_true, decide_eq_true_eq] at hactive hsame
    have hfalse := hrevoked binding hbinding hsame.1.1.symm
    rw [hactive.2] at hfalse
    cases hfalse
  · cases hmem

end Requests

section Sequences

theorem taken_iff (store : BindingStore) (row : BindingRow) :
    ¬PlaceFree store row ↔ Taken store row.ownerSubject row.place true ∨
      Taken store row.ownerSubject row.place false := by
  rw [PlaceFree]
  push Not
  constructor
  · rintro ⟨other, hother, hplace, hne⟩
    cases hactive : other.active with
    | true => exact .inl ⟨other, hother, hne, hplace, hactive⟩
    | false => exact .inr ⟨other, hother, hne, hplace, hactive⟩
  · rintro (⟨other, hother, hne, hplace, -⟩ | ⟨other, hother, hne, hplace, -⟩)
    · exact ⟨other, hother, hplace, hne⟩
    · exact ⟨other, hother, hplace, hne⟩

theorem Taken.unique (h : SoundBindings store) (hactive : Taken store ownerSubject place true) :
    ¬Taken store ownerSubject place false := by
  rintro ⟨b, hb, -, hplace', hfalse⟩
  obtain ⟨a, ha, -, hplace, htrue⟩ := hactive
  have howner := h.places a ha b hb (hplace.trans hplace'.symm)
  rw [List.inj_on_of_nodup_map h.owners ha hb howner, hfalse] at htrue
  cases htrue

/-- Over any sequence of requests the bindings stay unique and a revoked one gives no access until
it is bound again; an upsert fails for an active binding of another owner subject only, exactly when
no revoked one takes the place. -/
theorem binding_sequences (h : SoundBindings store) (calls : List BindingCall) :
    ((∀ a ∈ (run handle store calls).bindings, ∀ b ∈ (run handle store calls).bindings,
        a.ownerSubject = b.ownerSubject → a = b) ∧
      ∀ a ∈ (run handle store calls).bindings, ∀ b ∈ (run handle store calls).bindings,
        a.active = true → b.active = true → a.place = b.place → a.ownerSubject = b.ownerSubject) ∧
    (∀ before call after body ownerSubject, calls = before ++ call :: after →
      call.body = .revoke body → BindingStore.checkRevoke call body = .ok ownerSubject →
      (handle (run handle store before) call).1 = .ok .revoked ∧
        ((∀ t ∈ trace handle (handle (run handle store before) call).2 after,
            ¬Binds ownerSubject t) →
          ∀ principalId commits commit,
            activeProjection principalId (run handle store calls).bindings commits = some commit →
            commit.ownerSubject ≠ ownerSubject)) ∧
    ∀ t ∈ trace handle store calls, ∀ body noted input member, t.input.body = .upsert body →
      t.pre.upsertPrincipal t.input.principal t.input.now = .ok noted →
      noted.checkUpsert t.input body = .ok (input, member) →
      (((∃ error, t.output = .error error) →
          Taken t.pre input.ownerSubject (member, input.worldId) true) ↔
        ¬Taken t.pre input.ownerSubject (member, input.worldId) false) := by
  have hsound (calls : List BindingCall) : SoundBindings (run handle store calls) :=
    run_invariant h (fun _ call h => handle_sound h call) calls
  refine ⟨⟨?_, ?_⟩, ?_, ?_⟩
  · intro a ha b hb howner
    exact List.inj_on_of_nodup_map (hsound calls).owners ha hb howner
  · intro a ha b hb _ _ hplace
    exact (hsound calls).places a ha b hb hplace
  · intro before call after body ownerSubject hcalls hbody hcheck
    obtain ⟨noted, -, hnoted, -, hactor, heq⟩ := handle_spec (hsound before) call
    rw [hbody] at heq
    obtain ⟨next, hnext, hbindings, -⟩ := opsRevokeBinding_spec hactor hcheck
    rw [heq]
    dsimp only
    rw [hnext]
    refine ⟨rfl, ?_⟩
    intro hunbound principalId commits commit hcommit
    have hrevoked : Revoked ownerSubject next := by
      intro row hrow howner
      obtain ⟨_, -, -, -, hfalse, -⟩ := mem_revokeBinding (hbindings ▸ hrow)
      exact hfalse howner
    have hkept := run_invariant_while
      (I := fun store => SoundBindings store ∧ Revoked ownerSubject store)
      (C := fun t => ¬Binds ownerSubject t)
      ⟨?_, hrevoked⟩ (fun s call hs hnot => ⟨handle_sound hs.1 call,
        handle_revoked hs.1 hs.2 call hnot⟩)
      after hunbound
    · have hfinal : run handle store calls = run handle next after := by
        rw [hcalls, run_append, run_cons, heq]
        dsimp only
        rw [hnext]
      rw [hfinal] at hcommit
      exact activeProjection_ne_revoked hkept.2 hcommit
    · have hstep := handle_sound (hsound before) call
      rw [heq] at hstep
      dsimp only at hstep
      rwa [hnext] at hstep
  · intro t ht body noted input member hbody hnoted hcheck
    obtain ⟨hpre, htransition⟩ := mem_trace_invariant h (fun _ call h => handle_sound h call) ht
    obtain ⟨noted', hnoted', hsound', hbindings, hactor, heq⟩ := handle_spec hpre t.input
    obtain rfl : noted = noted' := by
      rw [hnoted] at hnoted'
      exact Except.ok.inj hnoted'
    have houtput : t.output = (noted.opsUpsertBinding t.input body).1 := by
      rw [hbody] at heq
      rw [htransition]
      exact congrArg Prod.fst heq
    have htaken (active : Bool) : Taken t.pre input.ownerSubject (member, input.worldId) active ↔
        Taken noted input.ownerSubject (member, input.worldId) active := by
      rw [Taken, Taken, hbindings]
    rw [htaken, htaken, houtput]
    have hplace := taken_iff noted (BindingStore.boundRow t.input input member)
    rcases opsUpsertBinding_spec hactor hcheck with
      ⟨hfree, _, _, -, -, -, hok⟩ | ⟨hfull, hfailed⟩
    · rw [hok]
      constructor
      · intro _ hrevoked
        exact hplace.2 (.inr hrevoked) hfree
      · rintro - ⟨_, herror⟩
        cases herror
    · rw [hfailed]
      constructor
      · intro htrue
        exact (htrue ⟨_, rfl⟩).unique hsound'
      · rintro hnot -
        exact (hplace.1 hfull).resolve_right hnot

end Sequences

section Members

def operator : PrincipalContext := ⟨⟨"op", true⟩, "op@example.com"⟩

/-- An operator and a member who have signed in. -/
def memberStore : BindingStore where
  principals := [⟨"op", "verified:op", "op@example.com", true, "1"⟩,
    ⟨"member", "verified:member", "one@example.com", false, "1"⟩]
  bindings := []
  auditEvents := []

def bindCall (letter : Char) : BindingCall :=
  ⟨operator, "request", "2", .upsert (.ok ⟨.ofList (List.replicate 64 letter), "One@example.com",
    "world", none⟩)⟩

def revokeCall (letter : Char) : BindingCall :=
  ⟨operator, "request", "3", .revoke (.ok (.ofList (List.replicate 64 letter)))⟩

theorem sound_memberStore : SoundBindings memberStore where
  owners := .nil
  places _ ha := nomatch ha
  principals := by decide

/-- After a revocation the member cannot be bound to another owner subject in the world. -/
theorem revoked_binding_blocks :
    ¬∀ t ∈ trace handle memberStore [bindCall 'a', revokeCall 'a', bindCall 'b'],
      ∀ body noted input member, t.input.body = .upsert body →
        t.pre.upsertPrincipal t.input.principal t.input.now = .ok noted →
        noted.checkUpsert t.input body = .ok (input, member) → (∃ error, t.output = .error error) →
        Taken t.pre input.ownerSubject (member, input.worldId) true := by
  intro h
  have hlast : transition handle (run handle memberStore [bindCall 'a', revokeCall 'a'])
      (bindCall 'b') ∈ trace handle memberStore [bindCall 'a', revokeCall 'a', bindCall 'b'] :=
    List.mem_cons_of_mem _ (List.mem_cons_of_mem _ List.mem_cons_self)
  have hinactive : ∀ row ∈ (run handle memberStore [bindCall 'a', revokeCall 'a']).bindings,
      row.active = false := by decide
  have houtput : (handle (run handle memberStore [bindCall 'a', revokeCall 'a'])
      (bindCall 'b')).1 = .error .internal := by decide
  have hmember : ((run handle memberStore [bindCall 'a', revokeCall 'a']).upsertPrincipal operator
      "2").toOption.bind (fun noted => (noted.checkUpsert (bindCall 'b') (.ok ⟨.ofList
        (List.replicate 64 'b'), "One@example.com", "world", none⟩)).toOption.map Prod.snd) =
      some "member" := by decide
  cases hnoted : (run handle memberStore [bindCall 'a', revokeCall 'a']).upsertPrincipal operator
      "2" with
  | error =>
    rw [hnoted] at hmember
    cases hmember
  | ok noted =>
    rw [hnoted] at hmember
    cases hcheck : noted.checkUpsert (bindCall 'b') (.ok ⟨.ofList (List.replicate 64 'b'),
        "One@example.com", "world", none⟩) with
    | error =>
      rw [Except.toOption, Option.bind_some, hcheck] at hmember
      cases hmember
    | ok checked =>
      obtain ⟨other, hother, -, -, hactive⟩ :=
        h _ hlast _ noted checked.1 checked.2 rfl hnoted hcheck ⟨_, houtput⟩
      rw [hinactive other hother] at hactive
      cases hactive

theorem rebound_owner_unique : SoundBindings memberStore ∧
    ∀ a ∈ (run handle memberStore [bindCall 'a', revokeCall 'a', bindCall 'a']).bindings,
      ∀ b ∈ (run handle memberStore [bindCall 'a', revokeCall 'a', bindCall 'a']).bindings,
        a.ownerSubject = b.ownerSubject → a = b :=
  ⟨sound_memberStore, (binding_sequences sound_memberStore _).1.1⟩

end Members

end PalBeacon.Cloud
