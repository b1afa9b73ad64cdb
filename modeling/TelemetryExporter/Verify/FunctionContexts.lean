import TelemetryExporter.Lib.Latest
import TelemetryExporter.Model.FunctionContextProvider

/-!
# The function contexts of a run

Every context that the provider returns is that of the function of an invoke event, of this call or
of an earlier one; a failed call changes nothing; and the tags are requested at most once in each
period of validity, whatever the invoke events, the answers and the times.
-/

namespace TelemetryExporter

variable {provider : FunctionContextProvider}

/-- The context is that of the function that the event invokes. -/
def FunctionContext.MadeFor (functionContext : FunctionContext) (provider : FunctionContextProvider)
    (e : InvokeEvent) : Prop :=
  ∃ arn tags, LambdaFunctionArn.fromStr e.invokedFunctionArn = .ok arn ∧
    functionContext = provider.makeFunctionContext arn.withoutVersion tags

/-- The contexts among the results. -/
def returnedContexts (results : List (Except Error FunctionContext)) : List FunctionContext :=
  results.filterMap Except.toOption

/-! ## One call -/

/-- What a call does. -/
inductive ProviderStep (provider : FunctionContextProvider) (s : ProviderState)
    (call : ProviderCall) : ProviderState → Prop where
  | cached (functionContext : FunctionContext)
      (hcache : s.cache.functionContext = some functionContext) :
    ProviderStep provider s call
      { s with clock := call.nowAfter, results := s.results ++ [.ok functionContext] }
  | failed (e : Error) (harn : LambdaFunctionArn.fromStr call.event.invokedFunctionArn = .error e) :
    ProviderStep provider s call
      { s with clock := call.nowAfter, results := s.results ++ [.error e] }
  | obtained (functionContext : FunctionContext)
      (hexpired : s.cache.functionContext ≠ none →
        provider.config.tagCacheValidity < call.now - s.cache.timestamp)
      (hmade : functionContext.MadeFor provider call.event) :
    ProviderStep provider s call
      { cache := { timestamp := call.nowAfter, functionContext := some functionContext }
        clock := call.nowAfter
        requests := s.requests ++ if provider.hasTagsProvider then [(call.now, call.nowAfter)] else []
        results := s.results ++ [.ok functionContext] }

/-- The cache is not used: there is nothing in it, or it is too old. -/
theorem cached_eq_none {s : ProviderState} {now : Instant} (htime : s.cache.timestamp ≤ now)
    (h : provider.cached now s.cache = none) (hne : s.cache.functionContext ≠ none) :
    provider.config.tagCacheValidity < now - s.cache.timestamp := by
  obtain ⟨functionContext, hsome⟩ := Option.ne_none_iff_exists'.1 hne
  rw [FunctionContextProvider.cached, hsome, Option.filter_eq_none_iff] at h
  have hexpired := h functionContext rfl
  simp only [decide_eq_true_eq] at hexpired
  rw [Int.max_eq_left (Int.sub_nonneg_of_le htime)] at hexpired
  exact Int.not_le.1 hexpired

theorem providerStep_cases {s s' : ProviderState} {call : ProviderCall}
    (htime : s.cache.timestamp ≤ s.clock) (h : providerStep provider s call = some s') :
    s.clock ≤ call.now ∧ call.now ≤ call.nowAfter ∧ ProviderStep provider s call s' := by
  unfold providerStep at h
  split at h
  · next hclock =>
    refine ⟨hclock.1, hclock.2, ?_⟩
    have hle : s.cache.timestamp ≤ call.now := Int.le_trans htime hclock.1
    cases hcached : provider.cached call.now s.cache with
    | some functionContext =>
      simp only [FunctionContextProvider.onInvokeEvent, hcached, Option.isNone_some,
        Bool.false_eq_true, false_and, if_false, List.append_nil] at h
      cases h
      refine .cached functionContext ?_
      rw [FunctionContextProvider.cached, Option.filter_eq_some_iff] at hcached
      exact hcached.1
    | none =>
      cases harn : LambdaFunctionArn.fromStr call.event.invokedFunctionArn with
      | error e =>
        simp only [FunctionContextProvider.onInvokeEvent, hcached,
          FunctionContextProvider.obtainFunctionContext, harn, Except.map, Except.isOk,
          Except.toBool, Bool.false_eq_true, false_and, and_false, if_false, List.append_nil] at h
        cases h
        exact .failed e harn
      | ok arn =>
        simp only [FunctionContextProvider.onInvokeEvent, hcached,
          FunctionContextProvider.obtainFunctionContext, harn, Except.map, Except.isOk,
          Except.toBool, Option.isNone_none, true_and, Option.some.injEq] at h
        subst h
        refine .obtained _ (cached_eq_none hle hcached) ⟨arn, _, harn, rfl⟩
  · cases h

/-! ## Runs -/

/-- What is known after the calls. -/
structure ProviderInvariant (provider : FunctionContextProvider) (calls : List ProviderCall)
    (s : ProviderState) : Prop where
  results : s.results.length = calls.length
  made : ∀ (i : Nat) (functionContext : FunctionContext),
    s.results[i]? = some (Except.ok functionContext) →
    ∃ j ≤ i, ∃ call, calls[j]? = some call ∧ functionContext.MadeFor provider call.event
  failed : ∀ (i : Nat) (call : ProviderCall) (e : Error), calls[i]? = some call →
    s.results[i]? = some (Except.error e) →
    LambdaFunctionArn.fromStr call.event.invokedFunctionArn = .error e
  cache : s.cache.functionContext = (returnedContexts s.results).getLast?
  time : s.cache.timestamp ≤ s.clock
  requested : ∀ r ∈ s.requests,
    s.cache.functionContext ≠ none ∧ r.2 ≤ s.cache.timestamp
  spaced : s.requests.Pairwise fun r r' => r.2 + provider.config.tagCacheValidity < r'.1

namespace ProviderInvariant

variable {s s' : ProviderState} {calls : List ProviderCall} {call : ProviderCall}

theorem initial (start : Instant) :
    ProviderInvariant provider [] { cache := { timestamp := start }, clock := start } where
  results := rfl
  made i functionContext h := by cases h
  failed i call e h := by cases h
  cache := rfl
  time := Int.le_refl _
  requested r h := by cases h
  spaced := .nil

/-- The next call has returned. -/
theorem concat (h : ProviderInvariant provider calls s) {result : Except Error FunctionContext}
    (hresults : s'.results = s.results ++ [result])
    (hmade : ∀ functionContext, result = .ok functionContext →
      functionContext.MadeFor provider call.event ∨ Except.ok functionContext ∈ s.results)
    (hfailed : ∀ e, result = .error e →
      LambdaFunctionArn.fromStr call.event.invokedFunctionArn = .error e)
    (hcache : s'.cache.functionContext = result.toOption.or s.cache.functionContext)
    (htime : s'.cache.timestamp ≤ s'.clock)
    (hrequested : ∀ r ∈ s'.requests, s'.cache.functionContext ≠ none ∧ r.2 ≤ s'.cache.timestamp)
    (hspaced : s'.requests.Pairwise fun r r' => r.2 + provider.config.tagCacheValidity < r'.1) :
    ProviderInvariant provider (calls ++ [call]) s' where
  results := by
    rw [hresults, List.length_append, List.length_append, h.results]
    rfl
  made i functionContext hi := by
    rw [hresults] at hi
    -- a context that has been returned before
    have old (j : Nat) (hj : j ≤ i) (hmem : s.results[j]? = some (Except.ok functionContext)) :
        ∃ j ≤ i, ∃ call', (calls ++ [call])[j]? = some call' ∧
          functionContext.MadeFor provider call'.event := by
      obtain ⟨k, hk, call', hcall', hmade'⟩ := h.made j functionContext hmem
      obtain ⟨hlt, -⟩ := List.getElem?_eq_some_iff.1 hcall'
      exact ⟨k, by omega, call', by rw [List.getElem?_append_left hlt]; exact hcall', hmade'⟩
    by_cases hlt : i < s.results.length
    · rw [List.getElem?_append_left hlt] at hi
      exact old i (Nat.le_refl i) hi
    · rw [List.getElem?_append_right (by omega)] at hi
      obtain ⟨hzero, hresult⟩ := List.getElem?_eq_some_iff.1 hi
      simp only [List.length_singleton] at hzero
      have hi' : i = s.results.length := by omega
      subst hi'
      simp only [Nat.sub_self, List.getElem_cons_zero] at hresult
      rcases hmade functionContext hresult with hnew | hmem
      · refine ⟨s.results.length, Nat.le_refl _, call, ?_, hnew⟩
        rw [h.results, List.getElem?_concat_length]
      · obtain ⟨j, hj⟩ := List.mem_iff_getElem?.1 hmem
        obtain ⟨hjlt, -⟩ := List.getElem?_eq_some_iff.1 hj
        exact old j (by omega) hj
  failed i call' e hcall' hi := by
    rw [hresults] at hi
    by_cases hlt : i < s.results.length
    · rw [List.getElem?_append_left hlt] at hi
      rw [List.getElem?_append_left (by rw [← h.results]; exact hlt)] at hcall'
      exact h.failed i call' e hcall' hi
    · rw [List.getElem?_append_right (by omega)] at hi
      obtain ⟨hzero, hresult⟩ := List.getElem?_eq_some_iff.1 hi
      simp only [List.length_singleton] at hzero
      have hi' : i = s.results.length := by omega
      subst hi'
      simp only [Nat.sub_self, List.getElem_cons_zero] at hresult
      rw [h.results, List.getElem?_concat_length, Option.some.injEq] at hcall'
      subst hcall'
      exact hfailed e hresult
  cache := by
    rw [hcache, hresults, h.cache, returnedContexts, returnedContexts]
    exact (Latest.concat s.results result).symm
  time := htime
  requested := hrequested
  spaced := hspaced

theorem step (h : ProviderInvariant provider calls s)
    (hstep : providerStep provider s call = some s') :
    ProviderInvariant provider (calls ++ [call]) s' := by
  obtain ⟨hclock, hafter, hstep⟩ := providerStep_cases h.time hstep
  have hlater : s.cache.timestamp ≤ call.nowAfter :=
    Int.le_trans h.time (Int.le_trans hclock hafter)
  cases hstep with
  | cached functionContext hcache =>
    refine h.concat rfl (fun fc hfc => ?_) nofun ?_ hlater h.requested h.spaced
    · cases hfc
      rw [h.cache] at hcache
      obtain ⟨result, hmem, hresult⟩ := List.mem_filterMap.1 (List.mem_of_getLast? hcache)
      cases result with
      | error e => cases hresult
      | ok fc =>
        cases hresult
        exact .inr hmem
    · rw [hcache]
      rfl
  | failed e harn =>
    refine h.concat rfl nofun (fun e' he' => ?_) rfl hlater h.requested h.spaced
    cases he'
    exact harn
  | obtained functionContext hexpired hmade =>
    refine h.concat rfl (fun fc hfc => ?_) nofun rfl (Int.le_refl _) (fun r hr => ⟨nofun, ?_⟩) ?_
    · cases hfc
      exact .inl hmade
    · rcases List.mem_append.1 hr with hr | hr
      · exact Int.le_trans (h.requested r hr).2 hlater
      · cases List.mem_singleton.1 (List.mem_ite_nil_right.1 hr).2
        exact Int.le_refl _
    · refine List.pairwise_append.2 ⟨h.spaced, ?_, ?_⟩
      · split
        · exact List.pairwise_singleton _ _
        · exact .nil
      · intro r hr r' hr'
        rw [List.mem_singleton.1 (List.mem_ite_nil_right.1 hr').2]
        obtain ⟨hcache, hle⟩ := h.requested r hr
        apply Int.lt_of_le_of_lt (Int.add_le_add_right hle _)
        exact Int.add_lt_of_lt_sub_left (hexpired hcache)

end ProviderInvariant

/-- **The function contexts of a run.** Whatever the invoke events, the answers of AWS and the times:

* a context that is returned was made for the function of this invoke event or an earlier one;
* a call fails only if the ARN of its event is malformed;
* the context for the shutdown is the one returned last, and degraded only if there is none;
* between the end of one request for the tags and the start of the next, more than the period of
  validity passes. -/
theorem function_contexts_of_run {start : Instant} {calls : List ProviderCall} {s : ProviderState}
    (hrun : providerRun provider start calls = some s) :
    s.results.length = calls.length ∧
    (∀ (i : Nat) (functionContext : FunctionContext), s.results[i]? = some (Except.ok functionContext) →
      ∃ j ≤ i, ∃ call, calls[j]? = some call ∧ functionContext.MadeFor provider call.event) ∧
    (∀ (i : Nat) (call : ProviderCall) (e : Error), calls[i]? = some call →
    s.results[i]? = some (Except.error e) →
      LambdaFunctionArn.fromStr call.event.invokedFunctionArn = .error e) ∧
    provider.getFunctionContextEvenIfDegraded s.cache =
      (returnedContexts s.results).getLast?.getD provider.makeDegradedFunctionContext ∧
    s.requests.Pairwise fun r r' => r.2 + provider.config.tagCacheValidity < r'.1 := by
  have h : ProviderInvariant provider calls s :=
    Machine.run_actions (.initial start) (fun _ _ _ _ h hstep => h.step hstep) hrun
  refine ⟨h.results, h.made, h.failed, ?_, h.spaced⟩
  rw [FunctionContextProvider.getFunctionContextEvenIfDegraded, h.cache]

/-- A provider that requests tags, valid for ten nanoseconds. -/
def sampleProvider : FunctionContextProvider :=
  { info := ⟨"eu-west-1", "f", "1", "id"⟩
    config := ⟨none, none, none, 10⟩
    hasTagsProvider := true }

/-- A call at the given time. -/
def sampleCall (now : Instant) : ProviderCall :=
  { event :=
      { deadlineMs := 0
        requestId := "r"
        invokedFunctionArn := "arn:aws:lambda:eu-west-1:0:function:f:alias"
        tracing := ⟨"", ""⟩ }
    now
    nowAfter := now
    answer := fun _ => none }

/-- The event has this ARN. -/
def ProviderCall.withArn (call : ProviderCall) (invokedFunctionArn : String) : ProviderCall :=
  { call with event := { call.event with invokedFunctionArn } }

/-- A call that makes the context, one that finds it, one that finds it expired, and one for an event
with a malformed ARN. -/
def providerCalls : List ProviderCall :=
  [sampleCall 1, sampleCall 5, sampleCall 20, (sampleCall 60).withArn "f"]

theorem function_contexts_of_four_calls :
    ∃ s, providerRun sampleProvider 0 providerCalls = some s ∧
      s.results.map (·.isOk) = [true, true, true, false] ∧ s.requests = [(1, 1), (20, 20)] ∧
      (∀ (i : Nat) (functionContext : FunctionContext),
        s.results[i]? = some (Except.ok functionContext) →
        ∃ j ≤ i, ∃ call, providerCalls[j]? = some call ∧
          functionContext.MadeFor sampleProvider call.event) ∧
      (∃ e, s.results[3]? = some (Except.error e) ∧ LambdaFunctionArn.fromStr "f" = .error e) ∧
      sampleProvider.getFunctionContextEvenIfDegraded s.cache =
        (returnedContexts s.results).getLast?.getD sampleProvider.makeDegradedFunctionContext ∧
      s.requests.Pairwise fun r r' => r.2 + 10 < r'.1 := by
  obtain ⟨s, hs, hresults, hrequests⟩ : ∃ s, providerRun sampleProvider 0 providerCalls = some s ∧
      s.results.map (·.isOk) = [true, true, true, false] ∧ s.requests = [(1, 1), (20, 20)] :=
    ⟨_, rfl, rfl, rfl⟩
  obtain ⟨-, hmade, hfailed, hshutdown, hspaced⟩ := function_contexts_of_run hs
  refine ⟨s, hs, hresults, hrequests, hmade, ?_, hshutdown, hspaced⟩
  have hlast := congrArg (fun results => results[3]?) hresults
  rw [List.getElem?_map] at hlast
  obtain ⟨result, hresult, herror⟩ := Option.map_eq_some_iff.1 hlast
  cases result with
  | ok functionContext => cases herror
  | error e => exact ⟨e, hresult, hfailed 3 _ e rfl hresult⟩

end TelemetryExporter
