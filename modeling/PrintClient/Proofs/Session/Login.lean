import PrintClient.Proofs.Session.Exchange

/-!
# Nothing goes out before the login

On every connection the first request is the login, and it is written once. Callers' requests follow
when the server has accepted it.

* `StartsWithLogin`: the requests on one connection with their numbers;
* `startsWithLogin_of_lawful`: lawful writes are such;
* `login_precedes_requests`: what is written on any connection of any run, and when.
-/

namespace PrintClient.Session

variable {H : Type}

/-- The requests written on a connection have the numbers 1, 2, 3 and so on; the first is the login,
and all others are callers'. -/
inductive StartsWithLogin (key : String) : List (Nat × Queued H) → Prop
  | nothing : StartsWithLogin key []
  | login {rest : List (Nat × Queued H)} (numbers : rest.map Prod.fst = List.range' 2 rest.length)
      (callers : ∀ p ∈ rest, p.2.isLogin = false) :
      StartsWithLogin key ((1, ⟨.login key, .login⟩) :: rest)

/-- A lawful write keeps to this. -/
theorem StartsWithLogin.concat {key : String} {before : List (Event H)} {g id : Nat} {q : Queued H}
    (h : StartsWithLogin key (writesOn g before)) (hlawful : Lawful key before (.wrote g id q)) :
    StartsWithLogin key (writesOn g before ++ [(id, q)]) := by
  obtain ⟨hid, hq⟩ := hlawful
  generalize writesOn g before = writes at h hid
  cases h with
  | nothing =>
    rcases hq with ⟨rfl, rfl⟩ | ⟨hlt, -⟩
    · exact .login rfl (by simp)
    · rw [hid] at hlt
      exact absurd hlt (Nat.lt_irrefl 1)
  | @login rest numbers callers =>
    rcases hq with ⟨hone, -⟩ | ⟨-, -, hturn⟩
    · rw [hone] at hid
      cases hid
    · show StartsWithLogin key ((1, ⟨.login key, .login⟩) :: (rest ++ [(id, q)]))
      refine .login ?_ fun p hp => ?_
      · rw [List.length_cons] at hid
        rw [List.map_append, numbers, List.length_append, List.length_singleton,
          List.range'_1_concat, hid, Nat.add_comm 2]
        rfl
      · rcases List.mem_append.1 hp with hp | hp
        · exact callers p hp
        · rw [List.mem_singleton.1 hp]
          exact hturn.isLogin

theorem startsWithLogin_of_lawful {key : String} {l : List (Event H)}
    (h : Throughout (Lawful key) l) (g : Nat) : StartsWithLogin key (writesOn g l) := by
  refine h.induction (motive := fun l => StartsWithLogin key (writesOn g l)) .nothing
    fun before e ih he => ?_
  rw [writesOn_append]
  cases hw : e.writeOn? g with
  | none =>
    rw [show writesOn g [e] = [] by simp [writesOn, hw], List.append_nil]
    exact ih
  | some p =>
    cases e <;> simp only [Event.writeOn?, reduceCtorEq] at hw
    rename_i g' id q
    split at hw
    · rename_i hg
      subst hg
      rw [show writesOn g' [.wrote g' id q] = [(id, q)] by simp [writesOn, Event.writeOn?]]
      exact ih.concat he
    · cases hw

namespace World

/-- **On every connection the requests are numbered without gaps, the first is the login and it is
the only one; no caller's request is written before the first response to the login was read there
with a flag `ok` that is true.** -/
theorem login_precedes_requests (setup : Setup H) (acts : List (Act H)) (g : Nat) :
    StartsWithLogin setup.endpoint.apiKey (writesOn g (run setup acts).history) ∧
      ∀ before id q after, (run setup acts).history = before ++ .wrote g id q :: after →
        q.isLogin = false →
        ∃ earlier later data,
          before = earlier ++ .wrote g 1 ⟨.login setup.endpoint.apiKey, .login⟩ :: later ∧
          (responsesOn g later).lookup 1 = some data ∧ data.member? "ok" = some (.bool true) := by
  have hlawful := (exchange_run setup acts).lawful
  refine ⟨startsWithLogin_of_lawful hlawful g, fun before id q after h hq => ?_⟩
  rw [h] at hlawful
  rcases hlawful.at.2 with ⟨-, rfl⟩ | ⟨-, ⟨earlier, q', later, data, rfl, hfirst, hok⟩, -⟩
  · cases hq
  · -- The first request on the connection was a lawful write too, so it was the login.
    rw [List.append_assoc, List.cons_append] at hlawful
    rcases hlawful.at.2 with ⟨-, rfl⟩ | ⟨hlt, -⟩
    · exact ⟨earlier, later, data, rfl, hfirst, hok⟩
    · exact absurd hlt (Nat.lt_irrefl 1)

/-- A request that is written after the login. -/
def sampleWrite : List (Act Nat) :=
  sampleLogin ++ [.submit (.named "listPrinter") 1, .step, .linkStep 1]

theorem sampleWrite_follows_login : ∃ before after earlier later data,
    (run sampleSetup sampleWrite).history =
      before ++ .wrote 1 2 ⟨.named "listPrinter", .caller 1⟩ :: after ∧
      before = earlier ++ .wrote 1 1 ⟨.login "key", .login⟩ :: later ∧
      (responsesOn 1 later).lookup 1 = some data ∧ data.member? "ok" = some (.bool true) := by
  have hwrote : .wrote 1 2 ⟨.named "listPrinter", .caller 1⟩ ∈
      (run sampleSetup sampleWrite).history := by
    decide +kernel
  obtain ⟨before, after, h⟩ := List.append_of_mem hwrote
  obtain ⟨earlier, later, data, hb, hfirst, hok⟩ :=
    (login_precedes_requests sampleSetup sampleWrite 1).2 before 2 _ after h rfl
  exact ⟨before, after, earlier, later, data, h, hb, hfirst, hok⟩

end World

end PrintClient.Session
