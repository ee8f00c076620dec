import CloudQueue.Pipeline.Basic
import CloudQueue.Proofs.Json.Depth
import CloudQueue.Proofs.Json.RoundTrip
import CloudQueue.Settings.Basic

/-!
# Texts of settings and pipelines

A document whose numbers are integers and that nests at most as deep as a reader follows is given
back by reading either of its texts, as settings or as a pipeline, so its compact text stands for
it; a document that nests deeper is refused (`text_round_trip`).
-/

namespace CloudQueue

namespace Json

/-! ## Equality of values without floating-point numbers -/

mutual

theorem same_eq_true_iff : (a b : Json) → a.Integral → (a.same b = true ↔ a = b)
  | .null, b, _ => by cases b <;> simp [same]
  | .bool _, b, _ => by cases b <;> simp [same]
  | .number (.integer ..), .number (.integer ..), _ => by simp [same, Number.same]
  | .number (.integer ..), .number (.float _), _ => by simp [same, Number.same]
  | .number (.integer ..), .null, _ | .number (.integer ..), .bool _, _
  | .number (.integer ..), .string _, _ | .number (.integer ..), .array _, _
  | .number (.integer ..), .object _, _ => by simp [same]
  | .number (.float _), _, h => by simp [Integral] at h
  | .string _, b, _ => by cases b <;> simp [same]
  | .array xs, .array ys, h => by
    rw [Json.array.injEq]
    exact sameItems_eq_true_iff xs ys h
  | .array _, .null, _ | .array _, .bool _, _ | .array _, .number _, _ | .array _, .string _, _
  | .array _, .object _, _ => by simp [same]
  | .object ms, .object ns, h => by
    rw [Json.object.injEq]
    exact (sameMembers_eq_true_iff ms ns h).trans ⟨Members.toList_injective, congrArg _⟩
  | .object _, .null, _ | .object _, .bool _, _ | .object _, .number _, _
  | .object _, .string _, _ | .object _, .array _, _ => by simp [same]

theorem sameItems_eq_true_iff :
    (xs ys : List Json) → ItemsIntegral xs → (sameItems xs ys = true ↔ xs = ys)
  | [], [], _ => by simp [sameItems]
  | [], _ :: _, _ | _ :: _, [], _ => by simp [sameItems]
  | x :: xs, y :: ys, h => by
    rw [sameItems, Bool.and_eq_true, same_eq_true_iff x y h.1, sameItems_eq_true_iff xs ys h.2,
      List.cons.injEq]

theorem sameMembers_eq_true_iff : {b c : Option String} → (ms : Members Json b) →
    (ns : Members Json c) → MembersIntegral ms → (sameMembers ms ns = true ↔ ms.toList = ns.toList)
  | _, _, .empty, .empty, _ => by simp [sameMembers]
  | _, _, .empty, .member .., _ | _, _, .member .., .empty, _ => by simp [sameMembers]
  | _, _, .member k _ x ms, .member l _ y ns, h => by
    rw [sameMembers, Bool.and_eq_true, Bool.and_eq_true, same_eq_true_iff x y h.1,
      sameMembers_eq_true_iff ms ns h.2, beq_iff_eq, Members.toList_member, Members.toList_member,
      List.cons.injEq, Prod.mk.injEq]

end

theorem forall_texts {j : Json} {P : String → Prop}
    (h : ∀ layout, P (String.ofList (j.print layout 0))) : ∀ text ∈ [j.compact, j.pretty], P text :=
  List.forall_mem_cons.mpr ⟨h .compact, List.forall_mem_singleton.mpr (h .pretty)⟩

end Json

namespace Pipeline

variable {p q : Pipeline}

theorem same_eq_true_iff (hp : p.toJson.Integral) : p.same q = true ↔ p = q := by
  have hiff := Json.same_eq_true_iff p.toJson q.toJson hp
  have hobject : p.toJson = q.toJson ↔ p = q := by
    cases p
    cases q
    simp [toJson]
  exact hiff.trans hobject

/-! ## The texts of a pipeline -/

theorem parses_pipeline (p : Pipeline) : ∀ text ∈ [p.compact, p.pretty],
    Json.Parses (p.toJson.depth ≤ Json.depthLimit) p.toJson.Integral p.settings
      (Json.parseObject text) := by
  refine Json.forall_texts (j := p.toJson) fun layout => ?_
  have hparses := Json.parses_object (w := []) layout p.settings (List.forall_mem_nil _)
  rwa [List.append_nil] at hparses

theorem parse_eq_ok {text : String} (htext : text ∈ [p.compact, p.pretty])
    (hp : p.toJson.Integral) (hdepth : p.toJson.depth ≤ Json.depthLimit) : parse text = .ok p := by
  unfold parse
  rw [(p.parses_pipeline text htext).eq_ok hp hdepth]
  rfl

theorem parse_eq_error {text : String} (htext : text ∈ [p.compact, p.pretty])
    (hdepth : ¬p.toJson.depth ≤ Json.depthLimit) :
    ∃ e, parse text = .error e ∧ (p.toJson.Integral → e.cause = .depthExceeded) := by
  obtain ⟨e, herror, hcause⟩ := (p.parses_pipeline text htext).eq_error hdepth
  refine ⟨e, ?_, hcause⟩
  unfold parse
  rw [herror]
  rfl

end Pipeline

namespace Settings

variable {j : Json}

theorem parses_text (j : Json) : ∀ text ∈ [j.compact, j.pretty],
    Json.Parses (j.depth ≤ Json.depthLimit) j.Integral j (Json.parse text) := by
  refine Json.forall_texts fun layout => ?_
  have hparses := Json.parses_print (w := []) layout j (List.forall_mem_nil _)
  rwa [List.append_nil] at hparses

theorem get_empty (hnull : j ≠ .null) : (⟨j⟩ : Settings).get "" = .ok j := by
  cases j with
  | null => exact absurd rfl hnull
  | bool _ | number _ | string _ | array _ | object _ => rfl

/-- **Round trip of texts.** A value other than null, whose numbers are integers and that nests at
most 127 deep, is given back as the whole document of the settings of its compact text and of its
pretty text. If it is an object, reading either text as a pipeline gives the pipeline that holds it,
and writing that pipeline gives the text again; so two such pipelines are equal if and only if their
compact texts are. A text of a value that nests deeper is refused, and setting one value makes such
a pipeline of any. -/
theorem text_round_trip :
    (∀ j : Json, j ≠ .null → j.Integral → j.depth ≤ 127 → ∀ text ∈ [j.compact, j.pretty],
      ∃ settings, ofText text = .ok settings ∧ settings.get "" = .ok j) ∧
    (∀ members, (Json.object members).Integral → (Json.object members).depth ≤ 127 →
      ∃ p : Pipeline, p.settings = members ∧
        Pipeline.parse (Json.object members).compact = .ok p ∧
        p.compact = (Json.object members).compact ∧
        Pipeline.parse (Json.object members).pretty = .ok p ∧
        p.pretty = (Json.object members).pretty) ∧
    (∀ p q : Pipeline, p.toJson.Integral → p.toJson.depth ≤ 127 →
      q.toJson.Integral → q.toJson.depth ≤ 127 →
        (p.same q = true ↔ p.compact = q.compact) ∧ (p.same q = true ↔ p = q)) ∧
    (∀ j : Json, 128 ≤ j.depth → ∀ text ∈ [j.compact, j.pretty],
      ∃ e, ofText text = .error (.text e) ∧ (j.Integral → e.cause = .depthExceeded)) ∧
    (∀ p : Pipeline, 128 ≤ p.toJson.depth → ∀ text ∈ [p.compact, p.pretty],
      ∃ e, Pipeline.parse text = .error e ∧ (p.toJson.Integral → e.cause = .depthExceeded)) ∧
    ∀ (p : Pipeline) (key : String), ∃ v, 128 ≤ (p.set key v).toJson.depth := by
  refine ⟨?_, ?_, ?_, ?_, ?_, ?_⟩
  · intro j hnull hj hdepth text htext
    refine ⟨⟨j⟩, ?_, get_empty hnull⟩
    unfold ofText
    rw [(parses_text j text htext).eq_ok hj hdepth]
  · intro members hmembers hdepth
    have hcompact := Pipeline.parse_eq_ok (p := ⟨members⟩) List.mem_cons_self hmembers hdepth
    have hpretty := Pipeline.parse_eq_ok (p := ⟨members⟩) (List.mem_pair.mpr (.inr rfl)) hmembers
      hdepth
    exact ⟨⟨members⟩, rfl, hcompact, rfl, hpretty, rfl⟩
  · intro p q hp hpdepth hq hqdepth
    have hsame := Pipeline.same_eq_true_iff (q := q) hp
    refine ⟨?_, hsame⟩
    rw [hsame]
    constructor
    · exact fun h => congrArg Pipeline.compact h
    · intro htexts
      have hparse := Pipeline.parse_eq_ok List.mem_cons_self hp hpdepth
      rw [htexts, Pipeline.parse_eq_ok List.mem_cons_self hq hqdepth] at hparse
      exact (Except.ok.inj hparse).symm
  · intro j hdepth text htext
    obtain ⟨e, herror, hcause⟩ := (parses_text j text htext).eq_error (Nat.not_le.mpr hdepth)
    refine ⟨e, ?_, hcause⟩
    unfold ofText
    rw [herror]
  · exact fun p hdepth text htext => Pipeline.parse_eq_error htext (Nat.not_le.mpr hdepth)
  · intro p key
    obtain ⟨v, hv⟩ := Json.exists_depth 127
    refine ⟨v, ?_⟩
    have hlt := Json.depth_lt_set p.settings key v
    rw [hv] at hlt
    exact hlt

end Settings

end CloudQueue
