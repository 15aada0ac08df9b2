import StationWatch.Proofs.Resolution

/-!
# Query paths asked in turn

A service is asked one query path after another.  Each path is sent to the address of the service,
with its time limit, and several times in a row where it is tried again; the next path finds the
replies that are left.  The address of a service is the one of its settings without the last
slashes.

## Main definitions

* `Service.askAll` — query paths asked one after another.
* `Service.repliesAfter` — the replies that they leave.

## Main results

* `trimSlashes_spec` — the address of a service.
* `Service.requests_askAll` — the requests of query paths, each with its attempts.
* `Service.exchange_latest` — the search for an observation asks its path.

## References

`SPEC_FULL.md`, section 6, on requests.
-/

namespace StationWatch

/-! ### The address -/

theorem takeWhile_eq_replicate (c : Char) (cs : List Char) :
    ∃ n, cs.takeWhile (· == c) = List.replicate n c := by
  refine ⟨(cs.takeWhile (· == c)).length, List.eq_replicate_iff.2 ⟨rfl, ?_⟩⟩
  intro d hd
  exact beq_iff_eq.1 (List.all_eq_true.1 List.all_takeWhile d hd)

theorem dropSlashes_spec (cs : List Char) :
    ∃ slashes, cs = dropSlashes cs ++ List.replicate slashes '/' ∧
      (dropSlashes cs).getLast? ≠ some '/' := by
  -- The last slashes are the first ones of the reversed text.
  obtain ⟨slashes, htaken⟩ := takeWhile_eq_replicate '/' cs.reverse
  have hparts := List.takeWhile_append_dropWhile (p := (· == '/')) (l := cs.reverse)
  have hurl := congrArg List.reverse hparts
  rw [htaken, List.reverse_append, List.reverse_replicate, List.reverse_reverse] at hurl
  refine ⟨slashes, hurl.symm, ?_⟩
  rw [dropSlashes, List.getLast?_reverse]
  intro hslash
  have hhead := List.head?_dropWhile_not (· == '/') cs.reverse
  rw [hslash] at hhead
  simp at hhead

/-- An address is what is left without its last slashes, and the slashes. -/
theorem trimSlashes_spec (url : RawText) :
    ∃ slashes : Nat, url = trimSlashes url ++ (String.ofList (.replicate slashes '/') : RawText) ∧
      ∀ front : RawText, trimSlashes url ≠ front ++ ("/" : RawText) := by
  induction url with
  | whole s =>
    obtain ⟨slashes, hurl, hlast⟩ := dropSlashes_spec s.toList
    refine ⟨slashes, ?_, fun front hfront => hlast ?_⟩
    · rw [trimSlashes, RawText.whole_append_whole, ← String.ofList_append, ← hurl,
        String.ofList_toList]
    · cases front with
      | whole front =>
        have hs := congrArg String.toList (RawText.whole.inj hfront)
        rw [String.toList_ofList, String.toList_append] at hs
        rw [hs]
        simp
      | broken front half rest => cases hfront
  | broken start half rest ih =>
    obtain ⟨slashes, hurl, hlast⟩ := ih
    refine ⟨slashes, by rw [trimSlashes, RawText.broken_append, ← hurl], fun front hfront => ?_⟩
    cases front with
    | whole front => cases hfront
    | broken front half' rest' => exact hlast rest' (RawText.broken.inj hfront).2.2

namespace Service

/-! ### Query paths asked in turn -/

/-- Query paths asked one after another, each with its attempts. -/
def askAll (c : Service) : List RawText → Dialogue Unit
  | [] => pure ()
  | path :: paths => do
    let _ ← c.send (c.address path)
    askAll c paths

/-- The replies that are left after query paths were asked one after another. -/
def repliesAfter (c : Service) (paths : List RawText) (replies : List Reply) : List Reply :=
  ((c.askAll paths).exchange replies).rest

variable (c : Service) (path : RawText) (paths more : List RawText) (replies : List Reply)

@[simp] theorem repliesAfter_nil : c.repliesAfter [] replies = replies := rfl

theorem repliesAfter_cons : c.repliesAfter (path :: paths) replies =
    c.repliesAfter paths ((c.send (c.address path)).exchange replies).rest := by
  simp only [repliesAfter, askAll, Dialogue.exchange_bind]

theorem requests_askAll_cons : ((c.askAll (path :: paths)).exchange replies).requests =
    ((c.send (c.address path)).exchange replies).requests ++
      ((c.askAll paths).exchange
        ((c.send (c.address path)).exchange replies).rest).requests := by
  simp only [askAll, Dialogue.exchange_bind]

theorem repliesAfter_append : c.repliesAfter (paths ++ more) replies =
    c.repliesAfter more (c.repliesAfter paths replies) := by
  induction paths generalizing replies with
  | nil => rfl
  | cons path paths ih => rw [List.cons_append, repliesAfter_cons, repliesAfter_cons, ih]

theorem requests_askAll_append : ((c.askAll (paths ++ more)).exchange replies).requests =
    ((c.askAll paths).exchange replies).requests ++
      ((c.askAll more).exchange (c.repliesAfter paths replies)).requests := by
  induction paths generalizing replies with
  | nil => rfl
  | cons path paths ih =>
    rw [List.cons_append, requests_askAll_cons, requests_askAll_cons, ih, repliesAfter_cons,
      List.append_assoc]

/-- The requests of query paths: for each path one request, sent once or several times in a row, at
most as often as there are attempts. -/
theorem requests_askAll : ∃ counts : List Nat, counts.length = paths.length ∧
    (∀ n ∈ counts, 1 ≤ n ∧ n ≤ (c.attempts - 1).toNat + 1) ∧
    ((c.askAll paths).exchange replies).requests =
      (paths.zip counts).flatMap fun sent =>
        List.replicate sent.2 (c.requestFor (c.address sent.1)) := by
  induction paths generalizing replies with
  | nil => exact ⟨[], rfl, by simp, rfl⟩
  | cons path paths ih =>
    obtain ⟨failures, last, htries⟩ := exists_tries c.attemptLimit_pos replies
    obtain ⟨counts, hlength, hcounts, hrequests⟩ :=
      ih ((c.send (c.address path)).exchange replies).rest
    refine ⟨(failures.length + 1) :: counts, by simp [hlength], ?_, ?_⟩
    · intro n hn
      rcases List.mem_cons.1 hn with rfl | hn
      · have hallowed := htries.allowed
        rw [attemptLimit_eq] at hallowed
        omega
      · exact hcounts n hn
    · rw [requests_askAll_cons, hrequests, htries.exchange_send]
      rfl

/-- What a final answer to the request for an observation yields. -/
def observationOfAnswer (measurement : RawText) (answer : Except NetworkFailure Response) :
    Except Fault Observation :=
  match c.payloadOfAnswer path answer with
  | .error fault => .error fault
  | .ok payload =>
    match Observation.ofPayload payload measurement with
    | .error fault => .error fault.asFault
    | .ok observation => .ok observation

theorem exchange_latest (measurement : RawText) :
    (c.latest path measurement).exchange replies =
      { (c.send (c.address path)).exchange replies with
        result := c.observationOfAnswer path measurement
          ((c.send (c.address path)).exchange replies).result } := by
  simp only [latest, Dialogue.exchange_bind, exchange_fetch, observationOfAnswer]
  cases c.payloadOfAnswer path ((c.send (c.address path)).exchange replies).result with
  | error fault => simp
  | ok payload =>
    cases hread : Observation.ofPayload payload measurement with
    | error fault => simp [hread]
    | ok observation => simp [hread]

end Service

end StationWatch
