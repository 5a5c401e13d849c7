import Upkeep.Cache.Criteria
import Upkeep.Inventory.Fields
import Upkeep.Proofs.Filter.Meaning

/-! What rendered criteria mean. The expression that criteria are rendered as is read back as a
tree with one term for each criterion, whatever characters the IDs are made of, and of every
schedule the tree tells whether it meets the criteria. -/
namespace Upkeep.Criteria
open Upkeep.Filter

/-- Alternatives are one operand, or none. -/
theorem means_anyOf {ss : List String} {es : List Expr} (each : List.Forall₂ (Means .operand) ss es) :
    List.Forall₂ (Means .operand) (anyOf ss) (joined .or es).toList := by
  cases each with
  | nil => exact .nil
  | cons first rest =>
      cases rest with
      | nil => exact .cons first .nil
      | cons second rest =>
          have all := Means.chain Means.or (.cons second.alone (rest.imp fun _ _ m => m.alone))
            first.alone.conjunction
          exact .cons all.parens .nil

def targetTerm (edge id : String) : Expr := .compare (edge ++ ".resource_id") .eq (.text id)

def targetTerms (c : Criteria) : List Expr :=
  (c.hostId.map (targetTerm "target_host")).toList ++ (c.siteId.map (targetTerm "target_site")).toList ++
    (c.regionId.map (targetTerm "target_region")).toList

def epochTerms (epoch : UInt64) : List Expr :=
  [.compare "start_seconds" .le (.number epoch),
    .or (.compare "end_seconds" .eq (.number 0)) (.compare "end_seconds" .gt (.number epoch))]

def terms (c : Criteria) : List Expr :=
  (joined .or c.targetTerms).toList ++ (c.epoch.map epochTerms).getD []

/-- The tree of the criteria. -/
def tree (c : Criteria) : Expr := (joined .and c.terms).getD .all

theorem means_target {edge : String} (known : edge ∈ edges) (id : Option String) :
    List.Forall₂ (Means .operand) (targetClause edge id) (id.map (targetTerm edge)).toList := by
  cases id with
  | none => exact .nil
  | some id =>
      refine .cons ?_ .nil
      have proper : ∀ edge ∈ edges, isIdent (edge ++ ".resource_id").toList = true ∧
          Text.sameWord (edge ++ ".resource_id") "NOT" = false := by decide
      obtain ⟨name, plain⟩ := proper edge known
      have meant := Means.compare .eq (v := .text id) (.ident name) plain (.text id)
      have spaced : ".resource_id = " = ".resource_id" ++ (" " ++ Comparison.eq.symbol ++ " ") := by decide
      have spelled : edge ++ ".resource_id = " ++ quote id =
          edge ++ ".resource_id" ++ (" " ++ Comparison.eq.symbol ++ " ") ++ quote id := by
        rw [spaced]
        simp only [String.append_assoc]
      dsimp only
      rw [spelled]
      exact meant

theorem means_targets (c : Criteria) : List.Forall₂ (Means .operand) c.targetClauses c.targetTerms :=
  List.rel_append
    (List.rel_append (means_target (by decide) c.hostId) (means_target (by decide) c.siteId))
    (means_target (by decide) c.regionId)

/-- The time is told by two operands, which are joined as all others are. -/
theorem epochClause_split (epoch : UInt64) : ∃ started ended : String,
    epochClause epoch = started ++ " AND " ++ ended ∧
      List.Forall₂ (Means .operand) [started, ended] (epochTerms epoch) := by
  have written : Spells (Value.number epoch).word (Decimal.text epoch.toNat).toList := by
    rw [Decimal.text, String.toList_ofList]
    exact .number epoch
  have zero : Spells (Value.number 0).word "0".toList := by
    have spelled := Spells.number 0
    rwa [Decimal.digits_small (by decide)] at spelled
  have start : Spells (.ident "start_seconds") "start_seconds".toList := .ident (by decide)
  have finish : Spells (.ident "end_seconds") "end_seconds".toList := .ident (by decide)
  have begun := Means.compare .le start (by decide) written
  have endless := Means.compare .eq finish (by decide) zero
  have ahead := Means.compare .gt finish (by decide) written
  refine ⟨_, _, ?_, .cons begun (.cons (Means.or endless.alone.conjunction ahead.alone).parens .nil)⟩
  have first : "start_seconds <= " = "start_seconds" ++ (" " ++ Comparison.le.symbol ++ " ") := by
    decide
  have second : " AND (end_seconds = 0 OR end_seconds > " =
      " AND " ++ "(" ++ "end_seconds" ++ (" " ++ Comparison.eq.symbol ++ " ") ++ "0" ++ " OR " ++
        "end_seconds" ++ (" " ++ Comparison.gt.symbol ++ " ") := by
    decide
  unfold epochClause
  rw [first, second]
  simp only [String.append_assoc]

theorem parse_expression (c : Criteria) : parse c.expression = .ok c.tree := by
  have terms : ∃ ss, c.expression = " AND ".intercalate ss ∧ List.Forall₂ (Means .operand) ss c.terms := by
    have targets := means_anyOf c.means_targets
    unfold expression Criteria.terms
    cases c.epoch with
    | none => exact ⟨_, rfl, List.rel_append targets .nil⟩
    | some epoch =>
        obtain ⟨started, ended, split, each⟩ := epochClause_split epoch
        refine ⟨_, ?_, List.rel_append targets each⟩
        rw [← intercalate_last, ← split]
        rfl
  obtain ⟨ss, whole, each⟩ := terms
  unfold tree
  rcases Means.conjoined each with ⟨rfl, empty⟩ | ⟨e, some, meant⟩
  · rw [whole, empty]
    rfl
  · rw [whole, some]
    exact parse_of_means meant

/-- The ID that is asked for among targets of a kind. -/
def idFor (c : Criteria) : Target → Option String
  | .host _ => c.hostId
  | .site _ => c.siteId
  | .region _ => c.regionId

/-- Whether a schedule has one of the targets that are asked for, if any are, and its window
covers the time that is asked for, if one is. -/
def admits (c : Criteria) (s : Schedule) : Bool :=
  (c.hostId.isNone && c.siteId.isNone && c.regionId.isNone ||
    s.target.any fun t => c.idFor t == some t.id) &&
  c.epoch.all s.window.covers

section Judged
variable {s : Schedule}

theorem field_target {edge : String} (known : edge ∈ edges) :
    s.field (edge ++ ".resource_id") = s.edgeField edge := by
  simp only [edges, List.mem_cons, List.not_mem_nil, or_false] at known
  rcases known with rfl | rfl | rfl <;> rfl

theorem eval_target {edge : String} (known : edge ∈ edges) (id : String) :
    (targetTerm edge id).eval s.field = .ok (s.target.any fun t => t.edge == edge && t.id == id) := by
  have found := field_target (s := s) known
  unfold Schedule.edgeField at found
  unfold targetTerm
  cases target : s.target with
  | none =>
      rw [target] at found
      exact eval_unset found _ _
  | some t =>
      rw [target] at found
      by_cases edged : t.edge = edge
      · simp only [edged, if_true] at found
        rw [eval_text found, holds_eq, Option.any_some, edged, beq_self_eq_true, Bool.true_and]
        rfl
      · simp only [edged, if_false] at found
        rw [eval_unset found, Option.any_some, beq_eq_false_iff_ne.2 edged]
        rfl

/-- Whether the schedule has the target of an edge, told for an ID that is asked for. -/
def hits (s : Schedule) (edge : String) (id : Option String) : List Bool :=
  (id.map fun id => s.target.any fun t => t.edge == edge && t.id == id).toList

theorem judged_target {edge : String} (known : edge ∈ edges) (id : Option String) :
    Judged s.field (id.map (targetTerm edge)).toList (hits s edge id) := by
  cases id with
  | none => exact .nil
  | some id => exact .cons (eval_target known id) .nil

theorem judged_targets (c : Criteria) (s : Schedule) : Judged s.field c.targetTerms
    (hits s "target_host" c.hostId ++ hits s "target_site" c.siteId ++
      hits s "target_region" c.regionId) :=
  List.rel_append
    (List.rel_append (judged_target (by decide) c.hostId) (judged_target (by decide) c.siteId))
    (judged_target (by decide) c.regionId)

theorem hits_any (edge : String) (wanted : Option String) :
    (hits s edge wanted).any id = s.target.any fun t => t.edge == edge && wanted == some t.id := by
  unfold hits
  cases wanted with
  | none => cases s.target <;> simp
  | some id =>
      cases s.target with
      | none => rfl
      | some t => simp [Bool.beq_eq_decide_eq, eq_comm]

theorem hits_all (c : Criteria) (s : Schedule) :
    let found := hits s "target_host" c.hostId ++ hits s "target_site" c.siteId ++
      hits s "target_region" c.regionId
    (if found.isEmpty then [] else [found.any id]).all id =
      (c.hostId.isNone && c.siteId.isNone && c.regionId.isNone ||
        s.target.any fun t => c.idFor t == some t.id) := by
  have either (found : List Bool) :
      (if found.isEmpty then [] else [found.any id]).all id = (found.isEmpty || found.any id) := by
    cases found <;> simp
  dsimp only
  rw [either]
  congr 1
  · cases c.hostId <;> cases c.siteId <;> cases c.regionId <;> rfl
  · rw [List.any_append, List.any_append, hits_any, hits_any, hits_any]
    rcases s.target with _ | (host | site | region) <;> simp [Target.edge, idFor]

theorem judged_epoch (epoch : UInt64) :
    Judged s.field (epochTerms epoch) [decide (s.start ≤ epoch), s.finish == 0 || decide (epoch < s.finish)] := by
  have begun : s.field "start_seconds" = Field.value (.number s.start) := rfl
  have ended : s.field "end_seconds" = Field.value (.number s.finish) := rfl
  refine .cons ?_ (.cons ?_ .nil)
  · rw [eval_number begun, holds_le]
  · rw [eval_or (eval_number ended .eq 0) (eval_number ended .gt epoch), holds_eq, holds_gt]
    rfl

theorem eval_tree (c : Criteria) (s : Schedule) : c.tree.eval s.field = .ok (c.admits s) := by
  have targets := (judged_targets c s).joined_or
  unfold tree terms admits
  cases c.epoch with
  | none =>
      have whole := Judged.joined_and (List.rel_append targets .nil)
      rw [List.all_append, hits_all] at whole
      exact whole
  | some epoch =>
      have whole := Judged.joined_and (List.rel_append targets (judged_epoch epoch))
      rw [List.all_append, hits_all] at whole
      simpa [Window.covers, Window.openEnded, Schedule.window] using whole

/-- The rendered criteria are an expression that holds of exactly the schedules that meet the
criteria, and fails on none. -/
theorem expression_means (c : Criteria) : ∃ e, parse c.expression = .ok e ∧
    ∀ s : Schedule, e.eval (Resource.schedule s).field = .ok (c.admits s) :=
  ⟨c.tree, c.parse_expression, c.eval_tree⟩

end Judged

end Upkeep.Criteria
