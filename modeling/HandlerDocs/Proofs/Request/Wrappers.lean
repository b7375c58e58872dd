import HandlerDocs.Generation
import Mathlib.Data.List.Perm.Basic

/-!
# Payloads and their wrappers

The payload of a return type stands inside of a chain of wrappers, each of which is the first
argument of the next. Such a chain comes to nothing but two facts: whether one of its wrappers
stands for "no payload", and whether one of them is that of a page. So the order of the wrappers
does not matter, and what is left without them has none to take off.

* `Config.payload?_wrapped` — a type inside of a chain of wrappers.
* `Config.payload?_eq_some_iff` — every type with a payload is its payload inside of such a chain.
* `Config.unwrapResponse_wrappers` — wrappers of return types, up to the snippets of handlers.
-/

namespace HandlerDocs

/-! ### Chains of wrappers -/

/-- A class type around a type, which is its first argument. -/
structure Wrapper where
  /-- The name of the class. -/
  name : String
  /-- The arguments behind the first. -/
  others : List TypeRef := []

/-- A type inside of wrappers, the first of which is outermost. -/
def TypeRef.wrapped (ws : List Wrapper) (t : TypeRef) : TypeRef :=
  ws.foldr (fun w inner => .named w.name (inner :: w.others)) t

/-- Whether a wrapper stands for "no payload", whatever is in it. -/
def Wrapper.isVoid (w : Wrapper) : Bool :=
  w.name == "java.lang.Void" || w.name == "Void"

theorem Wrapper.isVoid_named (w : Wrapper) (arguments : List TypeRef) :
    (TypeRef.named w.name arguments).isVoid = w.isVoid :=
  rfl

theorem Wrapper.isVoid_eq_false {w : Wrapper} (h : w.name ≠ "Void")
    (h' : w.name ≠ "java.lang.Void") : w.isVoid = false := by
  simp [isVoid, h, h']

namespace Config

variable {config : Config}

/-- A type that is a payload by itself: it does not stand for "no payload", it is no wildcard, and
its name is not that of a wrapper. -/
structure IsBare (config : Config) (t : TypeRef) : Prop where
  /-- There is a payload. -/
  isVoid : t.isVoid = false
  /-- The payload has a type. -/
  ne_wildcard : t ≠ .wildcard
  /-- There is nothing to take off. -/
  isWrapper : ∀ name arguments, t = .named name arguments → config.isWrapper name = false

theorem payload?_of_isVoid {t : TypeRef} (h : t.isVoid = true) : config.payload? t = none := by
  fun_cases config.payload? t with
  | case1 | case2 | case5 | case7 => rfl
  | case3 _ _ _ hvoid | case4 _ _ _ hvoid | case8 _ _ _ _ hvoid => exact absurd h hvoid
  | case6 name hvoid => simp [h] at hvoid

theorem payload?_of_isBare {t : TypeRef} (h : config.IsBare t) :
    config.payload? t = some ⟨t, false⟩ := by
  fun_cases config.payload? t with
  | case1 => exact absurd rfl h.ne_wildcard
  | case2 name a as hvoid | case7 t _ _ _ hvoid => exact absurd hvoid (by simp [h.isVoid])
  | case3 name a as _ hwrapper => exact absurd hwrapper (by simp [h.isWrapper name _ rfl])
  | case5 name hor => exact absurd hor (by simp [h.isVoid, h.isWrapper name _ rfl])
  | case4 | case6 | case8 => rfl

/-- A wrapper hands on the payload of its first argument. -/
theorem payload?_wrapper {w : Wrapper} (t : TypeRef) (hwrapper : config.isWrapper w.name = true)
    (hvoid : w.isVoid = false) :
    config.payload? (.named w.name (t :: w.others)) =
      (config.payload? t).map fun payload =>
        { payload with paginated := config.isPageWrapper w.name || payload.paginated } := by
  have hvoid' : ¬ (TypeRef.named w.name (t :: w.others)).isVoid = true := by
    rw [w.isVoid_named, hvoid]
    exact Bool.false_ne_true
  rw [payload?, if_neg hvoid', if_pos hwrapper]

/-- Of the wrappers around a type it only matters whether one of them stands for "no payload", and
whether one is that of a page. -/
theorem payload?_wrapped {ws : List Wrapper} (h : ∀ w ∈ ws, config.isWrapper w.name = true)
    (t : TypeRef) :
    config.payload? (t.wrapped ws) =
      if ws.any Wrapper.isVoid then none
      else (config.payload? t).map fun payload =>
        { payload with paginated :=
            (ws.any fun w => config.isPageWrapper w.name) || payload.paginated } := by
  induction ws with
  | nil => simp [TypeRef.wrapped]
  | cons w ws ih =>
    rw [List.forall_mem_cons] at h
    have hwrapped : t.wrapped (w :: ws) = .named w.name (t.wrapped ws :: w.others) := rfl
    rw [hwrapped, List.any_cons]
    cases hvoid : w.isVoid with
    | true => exact payload?_of_isVoid hvoid
    | false =>
      rw [payload?_wrapper _ h.1 hvoid, ih h.2, Bool.false_or]
      by_cases hany : ws.any Wrapper.isVoid = true
      · rw [if_pos hany, if_pos hany, Option.map_none]
      · rw [if_neg hany, if_neg hany, Option.map_map]
        simp only [Function.comp_def, List.any_cons, Bool.or_assoc]

/-- What has a payload is a chain of wrappers around it. -/
theorem exists_wrapped_of_payload? {t : TypeRef} {payload : ResponsePayload}
    (h : config.payload? t = some payload) :
    ∃ ws : List Wrapper, (∀ w ∈ ws, config.isWrapper w.name = true ∧ w.isVoid = false) ∧
      t = payload.type.wrapped ws ∧ config.IsBare payload.type ∧
      payload.paginated = ws.any fun w => config.isPageWrapper w.name := by
  fun_induction config.payload? t generalizing payload with
  | case1 | case2 | case5 | case7 => cases h
  | case3 name a as hvoid hwrapper ih =>
    obtain ⟨inner, hinner, rfl⟩ := Option.map_eq_some_iff.mp h
    obtain ⟨ws, hws, rfl, hbare, hpage⟩ := ih hinner
    refine ⟨⟨name, as⟩ :: ws, ?_, rfl, hbare, ?_⟩
    · rw [List.forall_mem_cons]
      exact ⟨⟨hwrapper, Bool.eq_false_iff.mpr hvoid⟩, hws⟩
    · rw [List.any_cons, ← hpage]
  | case4 name a as hvoid hwrapper =>
    cases h
    refine ⟨[], by simp, rfl, ⟨by simpa using hvoid, by simp, ?_⟩, rfl⟩
    rintro _ _ ⟨⟩
    simpa using hwrapper
  | case6 name hor =>
    cases h
    rw [Bool.not_eq_true, Bool.or_eq_false_iff] at hor
    refine ⟨[], by simp, rfl, ⟨hor.1, by simp, ?_⟩, rfl⟩
    rintro _ _ ⟨⟩
    exact hor.2
  | case8 t hwildcard hcons hnil hvoid =>
    cases h
    refine ⟨[], by simp, rfl, ⟨by simpa using hvoid, hwildcard, ?_⟩, rfl⟩
    rintro name (_ | ⟨a, as⟩) heq
    · exact absurd heq (hnil name)
    · exact absurd heq (hcons name a as)

/-- A type has a payload exactly when it is a chain of wrappers around it, and then it is a page of
such payloads exactly when one of the wrappers is that of a page. -/
theorem payload?_eq_some_iff {t : TypeRef} {payload : ResponsePayload} :
    config.payload? t = some payload ↔
      ∃ ws : List Wrapper, (∀ w ∈ ws, config.isWrapper w.name = true ∧ w.isVoid = false) ∧
        t = payload.type.wrapped ws ∧ config.IsBare payload.type ∧
        payload.paginated = ws.any fun w => config.isPageWrapper w.name := by
  refine ⟨exists_wrapped_of_payload?, ?_⟩
  rintro ⟨ws, hws, rfl, hbare, hpage⟩
  have hvoid : ¬ ws.any Wrapper.isVoid = true := by
    rw [List.any_eq_true]
    rintro ⟨w, hw, hwvoid⟩
    exact absurd hwvoid (by simp [(hws w hw).2])
  rw [payload?_wrapped fun w hw => (hws w hw).1, if_neg hvoid, payload?_of_isBare hbare,
    Option.map_some, ← hpage, Bool.or_false]

/-! ### Return types -/

/-- What is left of a return type has nothing to take off. -/
theorem unwrapResponse_isBare {returnType : Option TypeRef} {payload : ResponsePayload}
    (h : config.unwrapResponse returnType = some payload) : config.IsBare payload.type := by
  obtain ⟨t, -, ht⟩ := Option.bind_eq_some_iff.mp h
  obtain ⟨ws, -, -, hbare, -⟩ := exists_wrapped_of_payload? ht
  exact hbare

/-- Wrappers around a return type can change places. -/
theorem unwrapResponse_wrapped_of_perm {ws ws' : List Wrapper} (hperm : ws.Perm ws')
    (h : ∀ w ∈ ws, config.isWrapper w.name = true) (t : TypeRef) :
    config.unwrapResponse (some (t.wrapped ws)) = config.unwrapResponse (some (t.wrapped ws')) := by
  have h' : ∀ w ∈ ws', config.isWrapper w.name = true := fun w hw => h w (hperm.mem_iff.mpr hw)
  have heq : config.payload? (t.wrapped ws) = config.payload? (t.wrapped ws') := by
    rw [payload?_wrapped h, payload?_wrapped h', hperm.any_eq, hperm.any_eq]
  exact heq

end Config

/-- Only the payload of its return type matters for the snippet of a handler. -/
theorem Generator.generate?_of_unwrapResponse_eq (g : Generator) (h : Handler)
    {returnType returnType' : Option TypeRef}
    (heq : g.config.unwrapResponse returnType = g.config.unwrapResponse returnType') :
    g.generate? { h with returnType } = g.generate? { h with returnType := returnType' } := by
  have hdescribe : Handler.describe? g.config { h with returnType } =
      Handler.describe? g.config { h with returnType := returnType' } := by
    simp only [Handler.describe?, heq]
    rfl
  rw [generate?, generate?, hdescribe]

/-- **Wrappers of return types.** A wrapper around a return type changes nothing but that a page
makes the payload one of a page: there is a payload with it exactly when there is one without it,
and of the same type. What is left without all wrappers does not stand for "no payload", is no
wildcard and no wrapper, and comes to itself when it is looked at again. The wrappers of a chain can
change places. So a wrapper that is not that of a page makes no difference to the snippet of a
handler. -/
theorem Config.unwrapResponse_wrappers :
    (∀ (config : Config) (name : String) (t : TypeRef) (others : List TypeRef),
      config.isWrapper name = true → name ≠ "Void" → name ≠ "java.lang.Void" →
        (config.unwrapResponse (some (.named name (t :: others))) = none ↔
          config.unwrapResponse (some t) = none) ∧
        ∀ payload, config.unwrapResponse (some t) = some payload →
          config.unwrapResponse (some (.named name (t :: others))) =
            some ⟨payload.type, payload.paginated || config.isPageWrapper name⟩) ∧
    (∀ (config : Config) (returnType : Option TypeRef) (payload : ResponsePayload),
      config.unwrapResponse returnType = some payload →
        payload.type.isVoid = false ∧ payload.type ≠ .wildcard ∧
        (∀ name arguments, payload.type = .named name arguments → config.isWrapper name = false) ∧
        config.unwrapResponse (some payload.type) = some ⟨payload.type, false⟩) ∧
    (∀ (config : Config) (ws ws' : List Wrapper) (t : TypeRef), ws.Perm ws' →
      (∀ w ∈ ws, config.isWrapper w.name = true) →
        config.unwrapResponse (some (t.wrapped ws)) =
          config.unwrapResponse (some (t.wrapped ws'))) ∧
    ∀ (g : Generator) (h : Handler) (name : String) (t : TypeRef) (others : List TypeRef),
      g.config.isResponseWrapper name = true → g.config.isPageWrapper name = false →
        name ≠ "Void" → name ≠ "java.lang.Void" →
          g.generate? { h with returnType := some (.named name (t :: others)) } =
            g.generate? { h with returnType := some t } := by
  refine ⟨fun config name t others hwrapper hne hne' => ?_,
    fun config returnType payload hpayload => ?_,
    fun config ws ws' t hperm h => unwrapResponse_wrapped_of_perm hperm h t,
    fun g h name t others hresponse hpage hne hne' => ?_⟩
  · have hvoid : Wrapper.isVoid ⟨name, others⟩ = false := Wrapper.isVoid_eq_false hne hne'
    have hunwrap : config.unwrapResponse (some (.named name (t :: others))) = _ :=
      payload?_wrapper t hwrapper hvoid
    rw [hunwrap]
    refine ⟨Option.map_eq_none_iff, fun payload hpayload => ?_⟩
    have hpayload : config.payload? t = some payload := hpayload
    rw [hpayload, Option.map_some, Bool.or_comm]
  · have hbare := unwrapResponse_isBare hpayload
    exact ⟨hbare.isVoid, hbare.ne_wildcard, hbare.isWrapper, payload?_of_isBare hbare⟩
  · have hwrapper : g.config.isWrapper name = true := by rw [isWrapper, hpage, hresponse]; rfl
    have hvoid : Wrapper.isVoid ⟨name, others⟩ = false := Wrapper.isVoid_eq_false hne hne'
    -- Without a page, the wrapper hands on the payload as it is.
    have hunwrap : g.config.unwrapResponse (some (.named name (t :: others))) =
        g.config.unwrapResponse (some t) := by
      refine (payload?_wrapper t hwrapper hvoid).trans ?_
      simp only [hpage, Bool.false_or]
      exact Option.map_id'
    exact g.generate?_of_unwrapResponse_eq h hunwrap

/-- Options with a response wrapper that is known by its full name. -/
private def envelopes : Config where
  responseWrappers := ["ResponseEntity", "app.Envelope"]

/-- A handler that answers with an order. -/
private def latest : Handler where
  name := "latest"
  annotations := [{ name := "GetMapping" }]
  returnType := some (.named "shop.Order" [])

/-- A page of orders in an envelope, and the other way round. -/
theorem Config.unwrapResponse_wrappers_orders :
    let order : TypeRef := .named "shop.Order" []
    let page : Wrapper := ⟨"org.data.Page", []⟩
    let envelope : Wrapper := ⟨"app.Envelope", [.named "app.Meta" []]⟩
    let g : Generator := { index := {}, config := envelopes, config_isValid := by decide +kernel }
    envelopes.isWrapper page.name = true ∧ envelopes.isPageWrapper envelope.name = false ∧
      envelopes.unwrapResponse (some (order.wrapped [page])) = some ⟨order, true⟩ ∧
      envelopes.unwrapResponse (some (order.wrapped [envelope, page])) =
        envelopes.unwrapResponse (some (order.wrapped [page, envelope])) ∧
      g.generate? { latest with returnType := some (order.wrapped [envelope]) } =
        g.generate? latest := by
  intro order page envelope g
  obtain ⟨hwrapper, hbare, hperm, hsnippet⟩ := Config.unwrapResponse_wrappers
  have hpage : envelopes.isWrapper page.name = true := by decide +kernel
  have hpaginates : envelopes.isPageWrapper page.name = true := by decide +kernel
  have henvelope : envelopes.isResponseWrapper envelope.name = true := by decide +kernel
  have hother : envelopes.isPageWrapper envelope.name = false := by decide +kernel
  have horder : envelopes.unwrapResponse (some order) = some ⟨order, false⟩ := by decide +kernel
  have hboth : ∀ w ∈ [envelope, page], envelopes.isWrapper w.name = true := by decide +kernel
  refine ⟨hpage, hother, ?_, ?_, ?_⟩
  · have hunwrap := (hwrapper envelopes page.name order [] hpage (by decide +kernel)
      (by decide +kernel)).2 _ horder
    rwa [hpaginates, Bool.or_true] at hunwrap
  · exact hperm envelopes _ _ order (List.Perm.swap page envelope []) hboth
  · exact hsnippet g latest _ order _ henvelope hother (by decide +kernel) (by decide +kernel)

end HandlerDocs
