import BrainV2.Lib.Rows
import BrainV2.Lib.Tenants

/-!
# Settings

The use cases that write and read what a workspace configures, each one transaction, under
`withWorkspace` or, where the workspace is deleted, `withSuperadmin`.

* `Row`: the tables, with the columns the use cases touch;
* `createCost` and on: the use cases;
* `perform`: what a request does;
* `settings_isolated`: every workspace finds and is answered what it would be if it were the only
  one;
* `settings_read_back`: the settings that a workspace reads are those of its updates in turn.
-/

namespace BrainV2.Settings

open RowOrder Tenants

/-! ### Tables -/

inductive CostType where
  | shipping | packaging | website | custom
deriving DecidableEq

inductive BillingMode where
  | monthly | perOrder
deriving DecidableEq

inductive GoalPeriod where
  | daily | weekly | monthly
deriving DecidableEq

inductive GoalType where
  | minimum | maximum | target
deriving DecidableEq

inductive GoalUnit where
  | mu | bp | count
deriving DecidableEq

inductive Platform where
  | metaAds | google
deriving DecidableEq

inductive CampaignIntent where
  | acquisition | retargeting | brand | unclassified
deriving DecidableEq

structure WorkspaceRow where
  id : String
  timezone : String
  taxPercentBp : Int
  skipZeroSalesOrders : Bool
  skippedShopifyOrderTags : List String
  founderSalaryMonthlyMu : Option Int
  founderSalaryCurrency : Option String
  updatedAt : Int
deriving DecidableEq

structure CogsSettingsRow where
  workspaceId : String
  overrideAllCogsBp : Int
  cogsMarkupBp : Int
  fallbackCogsBp : Int
  updatedAt : Int
deriving DecidableEq

/-- Dates are days. -/
structure CostRow where
  id : String
  workspaceId : String
  costType : CostType
  name : Option String
  amountMu : Int
  isPercent : Bool
  currencyCode : Option String
  billingMode : BillingMode
  effectiveFrom : Int
  effectiveTo : Option Int
  createdAt : Int
deriving DecidableEq

structure MiscExpenseRow where
  id : String
  workspaceId : String
  name : String
  amountMu : Int
  currencyCode : String
  effectiveStartDate : Int
  createdAt : Int
  updatedAt : Int
deriving DecidableEq

structure GoalRow where
  id : String
  workspaceId : String
  metricName : String
  periodType : GoalPeriod
  periodStart : Int
  goalValue : Int
  goalUnit : GoalUnit
  goalType : GoalType
  createdAt : Int
  updatedAt : Int
deriving DecidableEq

structure AdCampaignClassificationRow where
  id : String
  workspaceId : String
  platform : Platform
  campaignId : String
  intent : CampaignIntent
  campaignName : Option String
  createdAt : Int
  updatedAt : Int
deriving DecidableEq

structure FestivalRow where
  id : String
  workspaceId : String
  name : String
  startDate : Int
  endDate : Int
  color : String
  expectedMultiplierBp : Int
  regions : List String
  categories : List String
  isTemplate : Bool
  isActive : Bool
  createdAt : Int
  updatedAt : Int
deriving DecidableEq

structure MarketingActionRow where
  id : String
  workspaceId : String
  actionDate : Int
  actionType : String
  actionName : String
  notes : Option String
  createdBy : Option String
  createdAt : Int
  updatedAt : Int
deriving DecidableEq

inductive Table where
  | workspaces
  | cogsSettings
  | costs
  | miscExpenses
  | goals
  | classifications
  | festivals
  | marketingActions
deriving DecidableEq

abbrev Row : Table → Type
  | .workspaces => WorkspaceRow
  | .cogsSettings => CogsSettingsRow
  | .costs => CostRow
  | .miscExpenses => MiscExpenseRow
  | .goals => GoalRow
  | .classifications => AdCampaignClassificationRow
  | .festivals => FestivalRow
  | .marketingActions => MarketingActionRow

def owner : (t : Table) → Row t → String
  | .workspaces => WorkspaceRow.id
  | .cogsSettings => CogsSettingsRow.workspaceId
  | .costs => CostRow.workspaceId
  | .miscExpenses => MiscExpenseRow.workspaceId
  | .goals => GoalRow.workspaceId
  | .classifications => AdCampaignClassificationRow.workspaceId
  | .festivals => FestivalRow.workspaceId
  | .marketingActions => MarketingActionRow.workspaceId

/-! ### Failures -/

inductive Failure where
  /-- `SettingsError` with the code `NOT_FOUND` -/
  | notFound (message : String)
  | uniqueViolation (constraint : String)
  | foreignKeyViolation (constraint : String)
deriving DecidableEq

abbrev Work (β : Type) := Tx Row Failure β

/-- The id and the time that the database gives a statement. -/
structure Stamp where
  id : String
  now : Int
deriving DecidableEq

/-- The order of rows nothing is asked about, and that of texts. -/
structure Database where
  arrangement : Arrangement
  collation : String → String → Bool

def noClash {α : Type} (_ _ : α) : Bool := false

/-- The reference of a new row to its workspace. -/
def references (workspaceId constraint : String) {β : Type} (row : β) : Work β :=
  (Tx.on .workspaces (select fun w => decide (w.id = workspaceId))).andThen fun rows =>
    if rows.isEmpty then Tx.fail (.foreignKeyViolation constraint) else Tx.done row

/-- The first row that a statement has returned. -/
def firstRow (message : String) {β : Type} (rows : List β) : Work β :=
  match rows.head? with
  | some row => Tx.done row
  | none => Tx.fail (.notFound message)

section

variable (workspaceId : String) (stamp : Stamp)

/-! ### Costs -/

structure CreateCostInput where
  costType : CostType
  name : Option String
  amountMu : Int
  isPercent : Option Bool
  currencyCode : Option String
  billingMode : BillingMode
  effectiveFrom : Int
  effectiveTo : Option Int

def createCost (input : CreateCostInput) : Work CostRow :=
  (Tx.on .costs (insert noClash (.uniqueViolation "workspace_costs_pkey")
    { id := stamp.id
      workspaceId := workspaceId
      costType := input.costType
      name := input.name
      amountMu := input.amountMu
      isPercent := input.isPercent.getD false
      currencyCode := input.currencyCode
      billingMode := input.billingMode
      effectiveFrom := input.effectiveFrom
      effectiveTo := input.effectiveTo
      createdAt := stamp.now })).andThen
    (references workspaceId "workspace_costs_workspace_id_fkey")

/-- A field that is `none` is not in the input, one that is `some none` is null. -/
structure UpdateCostInput where
  costType : Option CostType
  name : Option (Option String)
  amountMu : Option Int
  isPercent : Option Bool
  currencyCode : Option (Option String)
  billingMode : Option BillingMode
  effectiveFrom : Option Int
  effectiveTo : Option (Option Int)

def UpdateCostInput.set (input : UpdateCostInput) (row : CostRow) : CostRow :=
  { row with
    costType := input.costType.getD row.costType
    name := input.name.getD row.name
    amountMu := input.amountMu.getD row.amountMu
    isPercent := input.isPercent.getD row.isPercent
    currencyCode := input.currencyCode.getD row.currencyCode
    billingMode := input.billingMode.getD row.billingMode
    effectiveFrom := input.effectiveFrom.getD row.effectiveFrom
    effectiveTo := input.effectiveTo.getD row.effectiveTo }

def updateCost (costId : String) (input : UpdateCostInput) : Work CostRow :=
  (Tx.on .costs (update (fun r => decide (r.id = costId ∧ r.workspaceId = workspaceId)) input.set
    noClash (.uniqueViolation "workspace_costs_pkey"))).andThen
    (firstRow ("Cost " ++ costId ++ " not found in workspace"))

def deleteCost (costId : String) : Work CostRow :=
  (Tx.on .costs (delete fun r => decide (r.id = costId ∧ r.workspaceId = workspaceId))).andThen
    (firstRow ("Cost " ++ costId ++ " not found in workspace"))

/-! ### Misc expenses -/

structure CreateMiscExpenseInput where
  name : String
  amountMu : Int
  currencyCode : Option String
  effectiveStartDate : Int

/-- An expense of the same name and start has its amount replaced, not its currency. -/
def createMiscExpense (input : CreateMiscExpenseInput) : Work MiscExpenseRow :=
  (Tx.on .miscExpenses (upsert
    (fun r => decide (r.workspaceId = workspaceId ∧ r.name = input.name ∧
      r.effectiveStartDate = input.effectiveStartDate))
    (fun r => { r with amountMu := input.amountMu, updatedAt := stamp.now })
    { id := stamp.id
      workspaceId := workspaceId
      name := input.name
      amountMu := input.amountMu
      currencyCode := input.currencyCode.getD "INR"
      effectiveStartDate := input.effectiveStartDate
      createdAt := stamp.now
      updatedAt := stamp.now })).andThen
    (references workspaceId "workspace_misc_expenses_workspace_id_fkey")

structure UpdateMiscExpenseInput where
  name : Option String
  amountMu : Option Int
  currencyCode : Option String
  effectiveStartDate : Option Int

def UpdateMiscExpenseInput.set (input : UpdateMiscExpenseInput) (row : MiscExpenseRow) :
    MiscExpenseRow :=
  { row with
    name := input.name.getD row.name
    amountMu := input.amountMu.getD row.amountMu
    currencyCode := input.currencyCode.getD row.currencyCode
    effectiveStartDate := input.effectiveStartDate.getD row.effectiveStartDate
    updatedAt := stamp.now }

/-- The unique key of the expenses. -/
def sameExpense (a b : MiscExpenseRow) : Bool :=
  decide (a.workspaceId = b.workspaceId ∧ a.name = b.name ∧
    a.effectiveStartDate = b.effectiveStartDate)

def updateMiscExpense (expenseId : String) (input : UpdateMiscExpenseInput) :
    Work MiscExpenseRow :=
  (Tx.on .miscExpenses (update
    (fun r => decide (r.id = expenseId ∧ r.workspaceId = workspaceId)) (input.set stamp) sameExpense
    (.uniqueViolation "workspace_misc_expenses_workspace_id_name_effective_start_d_key"))).andThen
    (firstRow ("Misc expense " ++ expenseId ++ " not found in workspace"))

def deleteMiscExpense (expenseId : String) : Work MiscExpenseRow :=
  (Tx.on .miscExpenses
    (delete fun r => decide (r.id = expenseId ∧ r.workspaceId = workspaceId))).andThen
    (firstRow ("Misc expense " ++ expenseId ++ " not found in workspace"))

/-! ### The workspace -/

def workspaceNotFound : String := "Workspace " ++ workspaceId ++ " not found"

structure FounderSalaryRow where
  founderSalaryMonthlyMu : Option Int
  founderSalaryCurrency : Option String
deriving DecidableEq

def WorkspaceRow.founderSalary (row : WorkspaceRow) : FounderSalaryRow :=
  ⟨row.founderSalaryMonthlyMu, row.founderSalaryCurrency⟩

def selectWorkspace : Work WorkspaceRow :=
  (Tx.on .workspaces (select fun w => decide (w.id = workspaceId))).andThen
    (firstRow (workspaceNotFound workspaceId))

/-- An update of the columns of the workspace. -/
def updateWorkspace (set : WorkspaceRow → WorkspaceRow) : Work (List WorkspaceRow) :=
  Tx.on .workspaces (update (fun w => decide (w.id = workspaceId)) set noClash
    (.uniqueViolation "workspaces_pkey"))

def getFounderSalary : Work FounderSalaryRow :=
  (selectWorkspace workspaceId).andThen fun row => Tx.done row.founderSalary

structure SetFounderSalaryInput where
  amountMu : Int
  currencyCode : String

def setFounderSalary (input : SetFounderSalaryInput) : Work FounderSalaryRow :=
  ((updateWorkspace workspaceId fun w => { w with
      founderSalaryMonthlyMu := some input.amountMu
      founderSalaryCurrency := some input.currencyCode
      updatedAt := stamp.now }).andThen
    (firstRow (workspaceNotFound workspaceId))).andThen fun row => Tx.done row.founderSalary

structure WorkspaceSettingsUpdateInput where
  timezone : Option String
  taxPercentBp : Option Int
  skipZeroSalesOrders : Option Bool
  skippedShopifyOrderTags : Option (List String)
  overrideAllCogsBp : Option Int
  cogsMarkupBp : Option Int
  fallbackCogsBp : Option Int

structure WorkspaceSettingsRow where
  id : String
  timezone : String
  taxPercentBp : Int
  skipZeroSalesOrders : Bool
  skippedShopifyOrderTags : List String
  overrideAllCogsBp : Int
  cogsMarkupBp : Int
  fallbackCogsBp : Int
  updatedAt : Int
deriving DecidableEq

/-- The row of the workspace and that of its COGS settings, if it has one. -/
def settingsRow (row : WorkspaceRow) (cogs : Option CogsSettingsRow) : WorkspaceSettingsRow where
  id := row.id
  timezone := row.timezone
  taxPercentBp := row.taxPercentBp
  skipZeroSalesOrders := row.skipZeroSalesOrders
  skippedShopifyOrderTags := row.skippedShopifyOrderTags
  overrideAllCogsBp := (cogs.map (·.overrideAllCogsBp)).getD 0
  cogsMarkupBp := (cogs.map (·.cogsMarkupBp)).getD 0
  fallbackCogsBp := (cogs.map (·.fallbackCogsBp)).getD 0
  updatedAt := row.updatedAt

/-- The join of `workspaces` with `workspace_cogs_settings`. -/
def getWorkspaceSettings : Work WorkspaceSettingsRow :=
  (selectWorkspace workspaceId).andThen fun row =>
    (Tx.on .cogsSettings (select fun c => decide (c.workspaceId = workspaceId))).andThen
      fun cogs => Tx.done (settingsRow row cogs.head?)

def WorkspaceSettingsUpdateInput.set (input : WorkspaceSettingsUpdateInput) (row : WorkspaceRow) :
    WorkspaceRow :=
  { row with
    timezone := input.timezone.getD row.timezone
    taxPercentBp := input.taxPercentBp.getD row.taxPercentBp
    skipZeroSalesOrders := input.skipZeroSalesOrders.getD row.skipZeroSalesOrders
    skippedShopifyOrderTags := input.skippedShopifyOrderTags.getD row.skippedShopifyOrderTags
    updatedAt := stamp.now }

def WorkspaceSettingsUpdateInput.setCogs (input : WorkspaceSettingsUpdateInput)
    (row : CogsSettingsRow) : CogsSettingsRow :=
  { row with
    overrideAllCogsBp := input.overrideAllCogsBp.getD row.overrideAllCogsBp
    cogsMarkupBp := input.cogsMarkupBp.getD row.cogsMarkupBp
    fallbackCogsBp := input.fallbackCogsBp.getD row.fallbackCogsBp
    updatedAt := stamp.now }

/-- Some COGS field is given. -/
def WorkspaceSettingsUpdateInput.hasCogs (input : WorkspaceSettingsUpdateInput) : Bool :=
  input.overrideAllCogsBp.isSome || input.cogsMarkupBp.isSome || input.fallbackCogsBp.isSome

def WorkspaceSettingsUpdateInput.newCogs (input : WorkspaceSettingsUpdateInput) :
    CogsSettingsRow where
  workspaceId := workspaceId
  overrideAllCogsBp := input.overrideAllCogsBp.getD 0
  cogsMarkupBp := input.cogsMarkupBp.getD 0
  fallbackCogsBp := input.fallbackCogsBp.getD 0
  updatedAt := stamp.now

def upsertCogs (input : WorkspaceSettingsUpdateInput) : Work CogsSettingsRow :=
  (Tx.on .cogsSettings (upsert (fun c => decide (c.workspaceId = workspaceId))
    (input.setCogs stamp) (input.newCogs workspaceId stamp))).andThen
    (references workspaceId "workspace_cogs_settings_workspace_id_fkey")

/-- The fields of the workspace, then its COGS fields if one is given, then both read back. -/
def updateWorkspaceSettings (input : WorkspaceSettingsUpdateInput) : Work WorkspaceSettingsRow :=
  (updateWorkspace workspaceId (input.set stamp)).andThen fun _ =>
    if input.hasCogs then
      (upsertCogs workspaceId stamp input).andThen fun _ => getWorkspaceSettings workspaceId
    else getWorkspaceSettings workspaceId

/-- The tables whose rows go with their workspace. -/
def cascaded : List Table :=
  [.cogsSettings, .costs, .miscExpenses, .goals, .classifications, .festivals, .marketingActions]

/-- An erasure request of the workspace keeps its row from being deleted. -/
def deleteWorkspace (restricted : Bool) : Work Unit :=
  ((Tx.on .workspaces (delete fun w => decide (w.id = workspaceId))).andThen
    (firstRow (workspaceNotFound workspaceId))).andThen fun _ =>
      if restricted then
        Tx.fail (.foreignKeyViolation "subject_erasure_request_workspace_id_fkey")
      else Tx.onEach (fun t =>
        (fun rows => (delete (fun r => decide (owner t r = workspaceId)) rows).map fun out =>
          ((), out.2))) cascaded

/-! ### Goals -/

structure CreateGoalInput where
  metricName : String
  periodType : GoalPeriod
  periodStart : Int
  goalValue : Int
  goalUnit : Option GoalUnit
  goalType : GoalType

/-- A goal for the same metric and period has its value and type replaced, not its unit. -/
def createGoal (input : CreateGoalInput) : Work GoalRow :=
  (Tx.on .goals (upsert
    (fun r => decide (r.workspaceId = workspaceId ∧ r.metricName = input.metricName ∧
      r.periodType = input.periodType ∧ r.periodStart = input.periodStart))
    (fun r => { r with
      goalValue := input.goalValue, goalType := input.goalType, updatedAt := stamp.now })
    { id := stamp.id
      workspaceId := workspaceId
      metricName := input.metricName
      periodType := input.periodType
      periodStart := input.periodStart
      goalValue := input.goalValue
      goalUnit := input.goalUnit.getD .mu
      goalType := input.goalType
      createdAt := stamp.now
      updatedAt := stamp.now })).andThen
    (references workspaceId "workspace_metric_goals_workspace_id_fkey")

structure UpdateGoalInput where
  goalValue : Option Int
  goalType : Option GoalType
  goalUnit : Option GoalUnit

def UpdateGoalInput.set (input : UpdateGoalInput) (row : GoalRow) : GoalRow :=
  { row with
    goalValue := input.goalValue.getD row.goalValue
    goalType := input.goalType.getD row.goalType
    goalUnit := input.goalUnit.getD row.goalUnit
    updatedAt := stamp.now }

def updateGoal (goalId : String) (input : UpdateGoalInput) : Work GoalRow :=
  (Tx.on .goals (update (fun r => decide (r.id = goalId ∧ r.workspaceId = workspaceId))
    (input.set stamp) noClash (.uniqueViolation "workspace_metric_goals_pkey"))).andThen
    (firstRow ("Goal " ++ goalId ++ " not found in workspace"))

def deleteGoal (goalId : String) : Work GoalRow :=
  (Tx.on .goals (delete fun r => decide (r.id = goalId ∧ r.workspaceId = workspaceId))).andThen
    (firstRow ("Goal " ++ goalId ++ " not found in workspace"))

/-! ### Campaign classifications -/

structure UpsertAdCampaignClassificationInput where
  platform : Platform
  campaignId : String
  intent : CampaignIntent
  campaignName : Option String

def upsertAdCampaignClassification (input : UpsertAdCampaignClassificationInput) :
    Work AdCampaignClassificationRow :=
  (Tx.on .classifications (upsert
    (fun r => decide (r.workspaceId = workspaceId ∧ r.platform = input.platform ∧
      r.campaignId = input.campaignId))
    (fun r => { r with
      intent := input.intent
      campaignName := input.campaignName.or r.campaignName
      updatedAt := stamp.now })
    { id := stamp.id
      workspaceId := workspaceId
      platform := input.platform
      campaignId := input.campaignId
      intent := input.intent
      campaignName := input.campaignName
      createdAt := stamp.now
      updatedAt := stamp.now })).andThen
    (references workspaceId "workspace_ad_campaign_classifications_workspace_id_fkey")

/-! ### Festivals -/

structure CreateFestivalInput where
  name : String
  startDate : Int
  endDate : Int
  color : Option String
  expectedMultiplierBp : Int
  regions : Option (List String)
  categories : Option (List String)
  isTemplate : Option Bool
  isActive : Option Bool

/-- The unique key of the festivals. -/
def sameFestival (a b : FestivalRow) : Bool :=
  decide (a.workspaceId = b.workspaceId ∧ a.name = b.name ∧ a.startDate = b.startDate)

def festivalKey : String := "workspace_festivals_workspace_id_name_start_date_key"

def createFestival (input : CreateFestivalInput) : Work FestivalRow :=
  (Tx.on .festivals (insert sameFestival (.uniqueViolation festivalKey)
    { id := stamp.id
      workspaceId := workspaceId
      name := input.name
      startDate := input.startDate
      endDate := input.endDate
      color := input.color.getD "#F59E0B"
      expectedMultiplierBp := input.expectedMultiplierBp
      regions := input.regions.getD []
      categories := input.categories.getD []
      isTemplate := input.isTemplate.getD false
      isActive := input.isActive.getD true
      createdAt := stamp.now
      updatedAt := stamp.now })).andThen
    (references workspaceId "workspace_festivals_workspace_id_fkey")

structure UpdateFestivalInput where
  name : Option String
  startDate : Option Int
  endDate : Option Int
  color : Option String
  expectedMultiplierBp : Option Int
  regions : Option (List String)
  categories : Option (List String)
  isActive : Option Bool

def UpdateFestivalInput.set (input : UpdateFestivalInput) (row : FestivalRow) : FestivalRow :=
  { row with
    name := input.name.getD row.name
    startDate := input.startDate.getD row.startDate
    endDate := input.endDate.getD row.endDate
    color := input.color.getD row.color
    expectedMultiplierBp := input.expectedMultiplierBp.getD row.expectedMultiplierBp
    regions := input.regions.getD row.regions
    categories := input.categories.getD row.categories
    isActive := input.isActive.getD row.isActive
    updatedAt := stamp.now }

def updateFestival (festivalId : String) (input : UpdateFestivalInput) : Work FestivalRow :=
  (Tx.on .festivals (update
    (fun r => decide (r.id = festivalId ∧ r.workspaceId = workspaceId)) (input.set stamp)
    sameFestival (.uniqueViolation festivalKey))).andThen
    (firstRow ("Festival " ++ festivalId ++ " not found in workspace"))

def deleteFestival (festivalId : String) : Work FestivalRow :=
  (Tx.on .festivals
    (delete fun r => decide (r.id = festivalId ∧ r.workspaceId = workspaceId))).andThen
    (firstRow ("Festival " ++ festivalId ++ " not found in workspace"))

/-- Every festival that is no template goes. The number of them is answered. -/
def resetFestivalDefaults : Work Nat :=
  (Tx.on .festivals
    (delete fun r => decide (r.workspaceId = workspaceId ∧ r.isTemplate = false))).andThen
    fun rows => Tx.done rows.length

/-! ### Marketing actions -/

structure CreateMarketingActionInput where
  actionDate : Int
  actionType : String
  actionName : String
  notes : Option String
  createdBy : Option String

def createMarketingAction (input : CreateMarketingActionInput) : Work MarketingActionRow :=
  (Tx.on .marketingActions (insert noClash (.uniqueViolation "marketing_actions_pkey")
    { id := stamp.id
      workspaceId := workspaceId
      actionDate := input.actionDate
      actionType := input.actionType
      actionName := input.actionName
      notes := input.notes
      createdBy := input.createdBy
      createdAt := stamp.now
      updatedAt := stamp.now })).andThen
    (references workspaceId "marketing_actions_workspace_id_fkey")

structure UpdateMarketingActionInput where
  actionDate : Option Int
  actionType : Option String
  actionName : Option String
  notes : Option (Option String)

def UpdateMarketingActionInput.set (input : UpdateMarketingActionInput)
    (row : MarketingActionRow) : MarketingActionRow :=
  { row with
    actionDate := input.actionDate.getD row.actionDate
    actionType := input.actionType.getD row.actionType
    actionName := input.actionName.getD row.actionName
    notes := input.notes.getD row.notes
    updatedAt := stamp.now }

def updateMarketingAction (actionId : String) (input : UpdateMarketingActionInput) :
    Work MarketingActionRow :=
  (Tx.on .marketingActions (update
    (fun r => decide (r.id = actionId ∧ r.workspaceId = workspaceId)) (input.set stamp) noClash
    (.uniqueViolation "marketing_actions_pkey"))).andThen
    (firstRow ("Marketing action " ++ actionId ++ " not found in workspace"))

def deleteMarketingAction (actionId : String) : Work MarketingActionRow :=
  (Tx.on .marketingActions
    (delete fun r => decide (r.id = actionId ∧ r.workspaceId = workspaceId))).andThen
    (firstRow ("Marketing action " ++ actionId ++ " not found in workspace"))

end

/-! ### Listings -/

section

variable (db : Database) (workspaceId : String)

/-- By a day, the latest first, and then by the time of creation, the latest first. -/
def costBefore (a b : CostRow) : Prop :=
  b.effectiveFrom < a.effectiveFrom ∨
    a.effectiveFrom = b.effectiveFrom ∧ b.createdAt ≤ a.createdAt

instance decidableCostBefore : DecidableRel costBefore := fun a b =>
  inferInstanceAs (Decidable (b.effectiveFrom < a.effectiveFrom ∨
    a.effectiveFrom = b.effectiveFrom ∧ b.createdAt ≤ a.createdAt))

def goalBefore (a b : GoalRow) : Prop :=
  b.periodStart < a.periodStart ∨
    a.periodStart = b.periodStart ∧ db.collation a.metricName b.metricName = true

instance decidableGoalBefore : DecidableRel (goalBefore db) := fun a b =>
  inferInstanceAs (Decidable (b.periodStart < a.periodStart ∨
    a.periodStart = b.periodStart ∧ db.collation a.metricName b.metricName = true))

def festivalBefore (a b : FestivalRow) : Prop :=
  b.startDate < a.startDate ∨ a.startDate = b.startDate ∧ db.collation a.name b.name = true

instance decidableFestivalBefore : DecidableRel (festivalBefore db) := fun a b =>
  inferInstanceAs (Decidable (b.startDate < a.startDate ∨
    a.startDate = b.startDate ∧ db.collation a.name b.name = true))

def actionBefore (a b : MarketingActionRow) : Prop :=
  a.actionDate < b.actionDate ∨ a.actionDate = b.actionDate ∧ a.createdAt ≤ b.createdAt

instance decidableActionBefore : DecidableRel actionBefore := fun a b =>
  inferInstanceAs (Decidable (a.actionDate < b.actionDate ∨
    a.actionDate = b.actionDate ∧ a.createdAt ≤ b.createdAt))

def listCosts : Work (List CostRow) :=
  (Tx.on .costs (select fun r => decide (r.workspaceId = workspaceId))).andThen fun rows =>
    Tx.done (orderBy db.arrangement costBefore rows)

def listGoals : Work (List GoalRow) :=
  (Tx.on .goals (select fun r => decide (r.workspaceId = workspaceId))).andThen fun rows =>
    Tx.done (orderBy db.arrangement (goalBefore db) rows)

def listFestivals : Work (List FestivalRow) :=
  (Tx.on .festivals (select fun r => decide (r.workspaceId = workspaceId))).andThen fun rows =>
    Tx.done (orderBy db.arrangement (festivalBefore db) rows)

def listMarketingActions (dateStart dateEnd : Int) : Work (List MarketingActionRow) :=
  (Tx.on .marketingActions (select fun r => decide (r.workspaceId = workspaceId ∧
    dateStart ≤ r.actionDate ∧ r.actionDate ≤ dateEnd))).andThen fun rows =>
    Tx.done (orderBy db.arrangement actionBefore rows)

end

/-! ### Requests -/

inductive UseCase where
  | createCost (input : CreateCostInput)
  | updateCost (costId : String) (input : UpdateCostInput)
  | deleteCost (costId : String)
  | createMiscExpense (input : CreateMiscExpenseInput)
  | updateMiscExpense (expenseId : String) (input : UpdateMiscExpenseInput)
  | deleteMiscExpense (expenseId : String)
  | getFounderSalary
  | setFounderSalary (input : SetFounderSalaryInput)
  | getWorkspaceSettings
  | updateWorkspaceSettings (input : WorkspaceSettingsUpdateInput)
  | deleteWorkspace (restricted : Bool)
  | createGoal (input : CreateGoalInput)
  | updateGoal (goalId : String) (input : UpdateGoalInput)
  | deleteGoal (goalId : String)
  | upsertAdCampaignClassification (input : UpsertAdCampaignClassificationInput)
  | createFestival (input : CreateFestivalInput)
  | updateFestival (festivalId : String) (input : UpdateFestivalInput)
  | deleteFestival (festivalId : String)
  | resetFestivalDefaults
  | listCosts
  | listGoals
  | listFestivals
  | listMarketingActions (dateStart dateEnd : Int)
  | createMarketingAction (input : CreateMarketingActionInput)
  | updateMarketingAction (actionId : String) (input : UpdateMarketingActionInput)
  | deleteMarketingAction (actionId : String)

inductive Response where
  | cost (row : CostRow)
  | costs (rows : List CostRow)
  | miscExpense (row : MiscExpenseRow)
  | founderSalary (row : FounderSalaryRow)
  | settings (row : WorkspaceSettingsRow)
  | goal (row : GoalRow)
  | goals (rows : List GoalRow)
  | classification (row : AdCampaignClassificationRow)
  | festival (row : FestivalRow)
  | festivals (rows : List FestivalRow)
  | marketingAction (row : MarketingActionRow)
  | marketingActions (rows : List MarketingActionRow)
  /-- `deleted: true` -/
  | deleted
  | deletedCount (count : Nat)

structure Request where
  workspaceId : String
  stamp : Stamp
  useCase : UseCase

def responding {β : Type} (tx : Work β) (response : β → Response) : Work Response :=
  tx.andThen fun b => Tx.done (response b)

def perform (db : Database) (r : Request) : Work Response :=
  match r.useCase with
  | .createCost input => responding (createCost r.workspaceId r.stamp input) .cost
  | .updateCost costId input => responding (updateCost r.workspaceId costId input) .cost
  | .deleteCost costId => responding (deleteCost r.workspaceId costId) fun _ => .deleted
  | .createMiscExpense input =>
    responding (createMiscExpense r.workspaceId r.stamp input) .miscExpense
  | .updateMiscExpense expenseId input =>
    responding (updateMiscExpense r.workspaceId r.stamp expenseId input) .miscExpense
  | .deleteMiscExpense expenseId =>
    responding (deleteMiscExpense r.workspaceId expenseId) fun _ => .deleted
  | .getFounderSalary => responding (getFounderSalary r.workspaceId) .founderSalary
  | .setFounderSalary input =>
    responding (setFounderSalary r.workspaceId r.stamp input) .founderSalary
  | .getWorkspaceSettings => responding (getWorkspaceSettings r.workspaceId) .settings
  | .updateWorkspaceSettings input =>
    responding (updateWorkspaceSettings r.workspaceId r.stamp input) .settings
  | .deleteWorkspace restricted =>
    responding (deleteWorkspace r.workspaceId restricted) fun _ => .deleted
  | .createGoal input => responding (createGoal r.workspaceId r.stamp input) .goal
  | .updateGoal goalId input => responding (updateGoal r.workspaceId r.stamp goalId input) .goal
  | .deleteGoal goalId => responding (deleteGoal r.workspaceId goalId) fun _ => .deleted
  | .upsertAdCampaignClassification input =>
    responding (upsertAdCampaignClassification r.workspaceId r.stamp input) .classification
  | .createFestival input => responding (createFestival r.workspaceId r.stamp input) .festival
  | .updateFestival festivalId input =>
    responding (updateFestival r.workspaceId r.stamp festivalId input) .festival
  | .deleteFestival festivalId =>
    responding (deleteFestival r.workspaceId festivalId) fun _ => .deleted
  | .resetFestivalDefaults => responding (resetFestivalDefaults r.workspaceId) .deletedCount
  | .listCosts => responding (listCosts db r.workspaceId) .costs
  | .listGoals => responding (listGoals db r.workspaceId) .goals
  | .listFestivals => responding (listFestivals db r.workspaceId) .festivals
  | .listMarketingActions dateStart dateEnd =>
    responding (listMarketingActions db r.workspaceId dateStart dateEnd) .marketingActions
  | .createMarketingAction input =>
    responding (createMarketingAction r.workspaceId r.stamp input) .marketingAction
  | .updateMarketingAction actionId input =>
    responding (updateMarketingAction r.workspaceId r.stamp actionId input) .marketingAction
  | .deleteMarketingAction actionId =>
    responding (deleteMarketingAction r.workspaceId actionId) fun _ => .deleted

/-! ### Each for its workspace -/

section

variable {workspaceId : String} {stamp : Stamp} {β : Type}

theorem responding_alone {tx : Work β} (h : Alone owner workspaceId tx) (response : β → Response) :
    Alone owner workspaceId (responding tx response) :=
  alone_andThen h fun b => alone_done (response b)

theorem firstRow_alone (message : String) (rows : List β) :
    Alone owner workspaceId (firstRow message rows) := by
  unfold firstRow
  cases rows.head? with
  | some row => exact alone_done row
  | none => exact alone_fail _

/-- A statement whose first row is answered. -/
theorem first_alone {t : Table} {f : Statement Failure (Row t) (List β)}
    (h : Confined (owner t) workspaceId f) (message : String) :
    Alone owner workspaceId ((Tx.on t f).andThen (firstRow message)) :=
  alone_andThen (alone_on h) (firstRow_alone message)

theorem selectOwn_alone (picks : WorkspaceRow → Bool)
    (h : ∀ r, picks r = true → r.id = workspaceId) :
    Alone owner workspaceId (Tx.on .workspaces (select picks) : Work (List WorkspaceRow)) :=
  alone_on (select_confined h)

theorem references_alone (constraint : String) (row : β) :
    Alone owner workspaceId (references workspaceId constraint row) := by
  unfold references
  refine alone_andThen (selectOwn_alone _ fun r => of_decide_eq_true) fun rows => ?_
  split
  · exact alone_fail _
  · exact alone_done row

/-- A new row that refers to its workspace. -/
theorem referring_alone {t : Table} {f : Statement Failure (Row t) β}
    (h : Confined (owner t) workspaceId f) (constraint : String) :
    Alone owner workspaceId ((Tx.on t f).andThen (references workspaceId constraint)) :=
  alone_andThen (alone_on h) (references_alone constraint)

theorem noClash_owner {α : Type} {owner : α → String} (c r : α) (h : noClash c r = true) :
    owner c = owner r := by cases h

/-! Costs -/

theorem createCost_alone (input : CreateCostInput) :
    Alone owner workspaceId (createCost workspaceId stamp input) := by
  unfold createCost
  apply referring_alone
  apply insert_confined
  · rfl
  · rintro r ⟨⟩

theorem updateCost_alone (costId : String) (input : UpdateCostInput) :
    Alone owner workspaceId (updateCost workspaceId costId input) := by
  unfold updateCost
  apply first_alone
  apply update_confined
  · exact fun r h => (of_decide_eq_true h).2
  · exact fun _ => rfl
  · exact noClash_owner

theorem deleteCost_alone (costId : String) :
    Alone owner workspaceId (deleteCost workspaceId costId) := by
  unfold deleteCost
  apply first_alone
  apply delete_confined
  exact fun r h => (of_decide_eq_true h).2

/-! Misc expenses -/

theorem createMiscExpense_alone (input : CreateMiscExpenseInput) :
    Alone owner workspaceId (createMiscExpense workspaceId stamp input) := by
  unfold createMiscExpense
  apply referring_alone
  apply upsert_confined
  · exact fun r h => (of_decide_eq_true h).1
  · exact fun _ => rfl
  · rfl

theorem updateMiscExpense_alone (expenseId : String) (input : UpdateMiscExpenseInput) :
    Alone owner workspaceId (updateMiscExpense workspaceId stamp expenseId input) := by
  unfold updateMiscExpense
  apply first_alone
  apply update_confined
  · exact fun r h => (of_decide_eq_true h).2
  · exact fun _ => rfl
  · exact fun c r h => (of_decide_eq_true h).1

theorem deleteMiscExpense_alone (expenseId : String) :
    Alone owner workspaceId (deleteMiscExpense workspaceId expenseId) := by
  unfold deleteMiscExpense
  apply first_alone
  apply delete_confined
  exact fun r h => (of_decide_eq_true h).2

/-! The workspace -/

theorem selectWorkspace_alone : Alone owner workspaceId (selectWorkspace workspaceId) := by
  unfold selectWorkspace
  apply first_alone
  apply select_confined
  exact fun r => of_decide_eq_true

theorem updateWorkspace_alone {set : WorkspaceRow → WorkspaceRow} (h : ∀ r, (set r).id = r.id) :
    Alone owner workspaceId (updateWorkspace workspaceId set) := by
  unfold updateWorkspace
  apply alone_on
  apply update_confined
  · exact fun r => of_decide_eq_true
  · exact h
  · exact noClash_owner

theorem getFounderSalary_alone : Alone owner workspaceId (getFounderSalary workspaceId) :=
  alone_andThen selectWorkspace_alone fun row => alone_done row.founderSalary

theorem setFounderSalary_alone (input : SetFounderSalaryInput) :
    Alone owner workspaceId (setFounderSalary workspaceId stamp input) := by
  unfold setFounderSalary
  apply alone_andThen
  · exact alone_andThen (updateWorkspace_alone fun _ => rfl) (firstRow_alone _)
  · exact fun row => alone_done row.founderSalary

theorem getWorkspaceSettings_alone :
    Alone owner workspaceId (getWorkspaceSettings workspaceId) := by
  unfold getWorkspaceSettings
  refine alone_andThen selectWorkspace_alone fun row => ?_
  apply alone_andThen
  · apply alone_on
    apply select_confined
    exact fun r => of_decide_eq_true
  · exact fun cogs => alone_done _

theorem upsertCogs_alone (input : WorkspaceSettingsUpdateInput) :
    Alone owner workspaceId (upsertCogs workspaceId stamp input) := by
  unfold upsertCogs
  apply referring_alone
  apply upsert_confined
  · exact fun r => of_decide_eq_true
  · exact fun _ => rfl
  · rfl

theorem updateWorkspaceSettings_alone (input : WorkspaceSettingsUpdateInput) :
    Alone owner workspaceId (updateWorkspaceSettings workspaceId stamp input) := by
  unfold updateWorkspaceSettings
  refine alone_andThen (updateWorkspace_alone fun _ => rfl) fun _ => ?_
  split
  · exact alone_andThen (upsertCogs_alone input) fun _ => getWorkspaceSettings_alone
  · exact getWorkspaceSettings_alone

/-- The rows that go with the workspace are its own. -/
theorem cascade_confined (t : Table) : Confined (owner t) workspaceId
    (fun rows => (delete (fun r => decide (owner t r = workspaceId)) rows).map fun out =>
      ((), out.2) : Statement Failure (Row t) Unit) := by
  have hdelete : Confined (owner t) workspaceId (delete fun r => decide (owner t r = workspaceId) :
      Statement Failure (Row t) (List (Row t))) := delete_confined fun r => of_decide_eq_true
  constructor
  · intro rows
    rw [hdelete.here rows]
    rfl
  · intro rows out h w' hw'
    cases h
    exact hdelete.elsewhere rows _ rfl w' hw'

theorem deleteWorkspace_alone (restricted : Bool) :
    Alone owner workspaceId (deleteWorkspace workspaceId restricted) := by
  unfold deleteWorkspace
  apply alone_andThen
  · apply first_alone
    apply delete_confined
    exact fun r => of_decide_eq_true
  · intro row
    split
    · exact alone_fail _
    · exact alone_onEach cascade_confined _

/-! Goals -/

theorem createGoal_alone (input : CreateGoalInput) :
    Alone owner workspaceId (createGoal workspaceId stamp input) := by
  unfold createGoal
  apply referring_alone
  apply upsert_confined
  · exact fun r h => (of_decide_eq_true h).1
  · exact fun _ => rfl
  · rfl

theorem updateGoal_alone (goalId : String) (input : UpdateGoalInput) :
    Alone owner workspaceId (updateGoal workspaceId stamp goalId input) := by
  unfold updateGoal
  apply first_alone
  apply update_confined
  · exact fun r h => (of_decide_eq_true h).2
  · exact fun _ => rfl
  · exact noClash_owner

theorem deleteGoal_alone (goalId : String) :
    Alone owner workspaceId (deleteGoal workspaceId goalId) := by
  unfold deleteGoal
  apply first_alone
  apply delete_confined
  exact fun r h => (of_decide_eq_true h).2

theorem upsertAdCampaignClassification_alone (input : UpsertAdCampaignClassificationInput) :
    Alone owner workspaceId (upsertAdCampaignClassification workspaceId stamp input) := by
  unfold upsertAdCampaignClassification
  apply referring_alone
  apply upsert_confined
  · exact fun r h => (of_decide_eq_true h).1
  · exact fun _ => rfl
  · rfl

/-! Festivals -/

theorem createFestival_alone (input : CreateFestivalInput) :
    Alone owner workspaceId (createFestival workspaceId stamp input) := by
  unfold createFestival
  apply referring_alone
  apply insert_confined
  · rfl
  · exact fun r h => (of_decide_eq_true h).1.symm

theorem updateFestival_alone (festivalId : String) (input : UpdateFestivalInput) :
    Alone owner workspaceId (updateFestival workspaceId stamp festivalId input) := by
  unfold updateFestival
  apply first_alone
  apply update_confined
  · exact fun r h => (of_decide_eq_true h).2
  · exact fun _ => rfl
  · exact fun c r h => (of_decide_eq_true h).1

theorem deleteFestival_alone (festivalId : String) :
    Alone owner workspaceId (deleteFestival workspaceId festivalId) := by
  unfold deleteFestival
  apply first_alone
  apply delete_confined
  exact fun r h => (of_decide_eq_true h).2

theorem resetFestivalDefaults_alone :
    Alone owner workspaceId (resetFestivalDefaults workspaceId) := by
  unfold resetFestivalDefaults
  apply alone_andThen
  · apply alone_on
    apply delete_confined
    exact fun r h => (of_decide_eq_true h).1
  · exact fun rows => alone_done rows.length

/-! Marketing actions -/

theorem createMarketingAction_alone (input : CreateMarketingActionInput) :
    Alone owner workspaceId (createMarketingAction workspaceId stamp input) := by
  unfold createMarketingAction
  apply referring_alone
  apply insert_confined
  · rfl
  · rintro r ⟨⟩

theorem updateMarketingAction_alone (actionId : String) (input : UpdateMarketingActionInput) :
    Alone owner workspaceId (updateMarketingAction workspaceId stamp actionId input) := by
  unfold updateMarketingAction
  apply first_alone
  apply update_confined
  · exact fun r h => (of_decide_eq_true h).2
  · exact fun _ => rfl
  · exact noClash_owner

theorem deleteMarketingAction_alone (actionId : String) :
    Alone owner workspaceId (deleteMarketingAction workspaceId actionId) := by
  unfold deleteMarketingAction
  apply first_alone
  apply delete_confined
  exact fun r h => (of_decide_eq_true h).2

/-! Listings -/

/-- Rows of the workspace, in an order. -/
theorem listing_alone {t : Table} {picks : Row t → Bool} (order : List (Row t) → β)
    (h : ∀ r, picks r = true → owner t r = workspaceId) :
    Alone owner workspaceId
      ((Tx.on t (select picks)).andThen fun rows => (Tx.done (order rows) : Work β)) :=
  alone_andThen (alone_on (select_confined h)) fun _ => alone_done _

end

/-- A request reads and writes what belongs to its workspace. -/
theorem perform_alone (db : Database) (r : Request) :
    Alone owner r.workspaceId (perform db r) := by
  unfold perform
  cases r.useCase with
  | createCost input => exact responding_alone (createCost_alone input) _
  | updateCost costId input => exact responding_alone (updateCost_alone costId input) _
  | deleteCost costId => exact responding_alone (deleteCost_alone costId) _
  | createMiscExpense input => exact responding_alone (createMiscExpense_alone input) _
  | updateMiscExpense id input => exact responding_alone (updateMiscExpense_alone id input) _
  | deleteMiscExpense id => exact responding_alone (deleteMiscExpense_alone id) _
  | getFounderSalary => exact responding_alone getFounderSalary_alone _
  | setFounderSalary input => exact responding_alone (setFounderSalary_alone input) _
  | getWorkspaceSettings => exact responding_alone getWorkspaceSettings_alone _
  | updateWorkspaceSettings input =>
    exact responding_alone (updateWorkspaceSettings_alone input) _
  | deleteWorkspace restricted => exact responding_alone (deleteWorkspace_alone restricted) _
  | createGoal input => exact responding_alone (createGoal_alone input) _
  | updateGoal goalId input => exact responding_alone (updateGoal_alone goalId input) _
  | deleteGoal goalId => exact responding_alone (deleteGoal_alone goalId) _
  | upsertAdCampaignClassification input =>
    exact responding_alone (upsertAdCampaignClassification_alone input) _
  | createFestival input => exact responding_alone (createFestival_alone input) _
  | updateFestival id input => exact responding_alone (updateFestival_alone id input) _
  | deleteFestival id => exact responding_alone (deleteFestival_alone id) _
  | resetFestivalDefaults => exact responding_alone resetFestivalDefaults_alone _
  | listCosts => exact responding_alone (listing_alone _ fun r => of_decide_eq_true) _
  | listGoals => exact responding_alone (listing_alone _ fun r => of_decide_eq_true) _
  | listFestivals => exact responding_alone (listing_alone _ fun r => of_decide_eq_true) _
  | listMarketingActions dateStart dateEnd =>
    exact responding_alone (listing_alone _ fun r h => (of_decide_eq_true h).1) _
  | createMarketingAction input => exact responding_alone (createMarketingAction_alone input) _
  | updateMarketingAction id input =>
    exact responding_alone (updateMarketingAction_alone id input) _
  | deleteMarketingAction id => exact responding_alone (deleteMarketingAction_alone id) _

/-- Whatever the requests of other workspaces are and however they come between, a workspace is
answered, and left with, what its own requests alone make of its own rows. -/
theorem settings_isolated (db : Database) (workspaceId : String) (s : Store Row)
    (requests : List Request) :
    ownStore owner workspaceId (Runs.exec (step (perform db)) s requests) =
        Runs.exec (step (perform db)) (ownStore owner workspaceId s)
          (requests.filter fun r => decide (r.workspaceId = workspaceId)) ∧
      (Runs.answers (answer (perform db)) (step (perform db)) s requests).filter
          (fun x => decide (x.1.workspaceId = workspaceId)) =
        Runs.answers (answer (perform db)) (step (perform db)) (ownStore owner workspaceId s)
          (requests.filter fun r => decide (r.workspaceId = workspaceId)) :=
  run_alone (perform_alone db) workspaceId s requests

/-! ### Settings read back -/

section

variable (workspaceId : String)

/-- What `getWorkspaceSettings` finds. -/
def settingsOf (s : Store Row) : Option WorkspaceSettingsRow :=
  ((s .workspaces).find? fun w => decide (w.id = workspaceId)).map fun row =>
    settingsRow row ((s .cogsSettings).find? fun c => decide (c.workspaceId = workspaceId))

/-- The fields that are given, in the row that is read. -/
def WorkspaceSettingsUpdateInput.patch (input : WorkspaceSettingsUpdateInput) (now : Int)
    (row : WorkspaceSettingsRow) : WorkspaceSettingsRow where
  id := row.id
  timezone := input.timezone.getD row.timezone
  taxPercentBp := input.taxPercentBp.getD row.taxPercentBp
  skipZeroSalesOrders := input.skipZeroSalesOrders.getD row.skipZeroSalesOrders
  skippedShopifyOrderTags := input.skippedShopifyOrderTags.getD row.skippedShopifyOrderTags
  overrideAllCogsBp := input.overrideAllCogsBp.getD row.overrideAllCogsBp
  cogsMarkupBp := input.cogsMarkupBp.getD row.cogsMarkupBp
  fallbackCogsBp := input.fallbackCogsBp.getD row.fallbackCogsBp
  updatedAt := now

/-- What a request of the workspace makes of its settings, taken as one row. -/
def register (settings : Option WorkspaceSettingsRow) (r : Request) :
    Option WorkspaceSettingsRow :=
  match r.useCase with
  | .updateWorkspaceSettings input => settings.map (input.patch r.stamp.now)
  | .setFounderSalary _ => settings.map fun row => { row with updatedAt := r.stamp.now }
  | .deleteWorkspace false => none
  | _ => settings

variable {workspaceId} {stamp : Stamp} {s : Store Row}

theorem settingsOf_own (s : Store Row) :
    settingsOf workspaceId (ownStore owner workspaceId s) = settingsOf workspaceId s := by
  have hworkspaces : (ownStore owner workspaceId s .workspaces).find?
      (fun w => decide (w.id = workspaceId)) =
        (s .workspaces).find? fun w => decide (w.id = workspaceId) :=
    find?_own (fun r => of_decide_eq_true) _
  have hcogs : (ownStore owner workspaceId s .cogsSettings).find?
      (fun c => decide (c.workspaceId = workspaceId)) =
        (s .cogsSettings).find? fun c => decide (c.workspaceId = workspaceId) :=
    find?_own (fun r => of_decide_eq_true) _
  rw [settingsOf, settingsOf, hworkspaces, hcogs]

theorem selectWorkspace_eq (s : Store Row) :
    selectWorkspace workspaceId s =
      ((s .workspaces).find? fun w => decide (w.id = workspaceId)).elim
        (.error (.notFound (workspaceNotFound workspaceId))) fun row => .ok (row, s) := by
  simp only [selectWorkspace, Tx.andThen, on_select, firstRow, List.head?_filter]
  cases (s .workspaces).find? fun w => decide (w.id = workspaceId) with
  | some row => rfl
  | none => rfl

theorem getWorkspaceSettings_eq (s : Store Row) :
    getWorkspaceSettings workspaceId s =
      (settingsOf workspaceId s).elim (.error (.notFound (workspaceNotFound workspaceId)))
        fun row => .ok (row, s) := by
  rw [getWorkspaceSettings, Tx.andThen, selectWorkspace_eq, settingsOf]
  cases (s .workspaces).find? fun w => decide (w.id = workspaceId) with
  | some row =>
    simp only [Tx.andThen, on_select, List.head?_filter, Option.map_some]
    rfl
  | none => rfl

theorem updateWorkspace_eq (workspaceId : String) (set : WorkspaceRow → WorkspaceRow)
    (s : Store Row) :
    updateWorkspace workspaceId set s =
      .ok (((s .workspaces).filter fun w => decide (w.id = workspaceId)).map set,
        Function.update s .workspaces
          ((s .workspaces).map fun w => if decide (w.id = workspaceId) then set w else w)) := by
  have hnone : ∀ rows rows' : List WorkspaceRow,
      (rows.any fun c => rows'.any fun r => !decide (r.id = workspaceId) && noClash c r) = false := by
    intro rows rows'
    simp [noClash]
  simp only [updateWorkspace, Tx.on, update]
  rw [hnone]
  rfl

/-- The row of the workspace, after an update of it. -/
theorem find?_updateWorkspace (set : WorkspaceRow → WorkspaceRow) (h : ∀ r, (set r).id = r.id)
    (rows : List WorkspaceRow) :
    (rows.map fun w => if decide (w.id = workspaceId) then set w else w).find?
        (fun w => decide (w.id = workspaceId)) =
      (rows.find? fun w => decide (w.id = workspaceId)).map set := by
  refine find?_changed (fun r hr => ?_) rows
  rw [h]
  exact hr

theorem references_eq {β : Type} (constraint : String) (row : β) {w : WorkspaceRow}
    (h : (s .workspaces).find? (fun w => decide (w.id = workspaceId)) = some w) :
    references workspaceId constraint row s = .ok (row, s) := by
  have hsome : ((s .workspaces).filter fun w => decide (w.id = workspaceId)).isEmpty = false := by
    rw [List.isEmpty_eq_false_iff, ne_eq, ← List.head?_eq_none_iff, List.head?_filter, h]
    exact Option.some_ne_none w
  simp only [references, Tx.andThen, on_select]
  rw [hsome]
  rfl

theorem references_missing {β : Type} (constraint : String) (row : β)
    (h : (s .workspaces).find? (fun w => decide (w.id = workspaceId)) = none) :
    references workspaceId constraint row s = .error (.foreignKeyViolation constraint) := by
  have hnone : (s .workspaces).filter (fun w => decide (w.id = workspaceId)) = [] :=
    List.filter_eq_nil_iff.mpr (List.find?_eq_none.mp h)
  simp only [references, Tx.andThen, on_select]
  rw [hnone]
  rfl

/-- The COGS row after an upsert, from the one before it. -/
def cogsAfter (workspaceId : String) (stamp : Stamp) (input : WorkspaceSettingsUpdateInput)
    (cogs : Option CogsSettingsRow) : CogsSettingsRow :=
  (cogs.map (input.setCogs stamp)).getD (input.newCogs workspaceId stamp)

theorem upsertCogs_eq (stamp : Stamp) (input : WorkspaceSettingsUpdateInput) {w : WorkspaceRow}
    (h : (s .workspaces).find? (fun w => decide (w.id = workspaceId)) = some w) :
    ∃ cogs rows, cogs = cogsAfter workspaceId stamp input
        ((s .cogsSettings).find? fun c => decide (c.workspaceId = workspaceId)) ∧
      rows.find? (fun c => decide (c.workspaceId = workspaceId)) = some cogs ∧
      upsertCogs workspaceId stamp input s = .ok (cogs, Function.update s .cogsSettings rows) := by
  obtain ⟨cogs, rows, hupsert, hfind, hcogs⟩ := find?_upsert Failure
    (fun c : CogsSettingsRow => decide (c.workspaceId = workspaceId)) (input.setCogs stamp)
    (input.newCogs workspaceId stamp) (fun _ h => h) (decide_eq_true rfl) (s .cogsSettings)
  have hworkspace : (Function.update s .cogsSettings rows .workspaces).find?
      (fun w => decide (w.id = workspaceId)) = some w := by
    rw [Function.update_of_ne (by decide : Table.workspaces ≠ .cogsSettings)]
    exact h
  refine ⟨cogs, rows, hcogs, hfind, ?_⟩
  simp only [upsertCogs, Tx.andThen, Tx.on]
  rw [hupsert]
  exact references_eq _ cogs hworkspace

/-! The whole update -/

/-- What is read after an update of both rows, or of the first one. -/
theorem patch_eq (stamp : Stamp) (input : WorkspaceSettingsUpdateInput) (row : WorkspaceRow)
    (cogs : Option CogsSettingsRow) :
    settingsRow (input.set stamp row) (some (cogsAfter workspaceId stamp input cogs)) =
      input.patch stamp.now (settingsRow row cogs) := by
  cases cogs with
  | some old => rfl
  | none => rfl

theorem patch_noCogs (stamp : Stamp) {input : WorkspaceSettingsUpdateInput}
    (h : input.hasCogs = false) (row : WorkspaceRow) (cogs : Option CogsSettingsRow) :
    settingsRow (input.set stamp row) cogs = input.patch stamp.now (settingsRow row cogs) := by
  obtain ⟨⟨hoverride, hmarkup⟩, hfallback⟩ :
      (input.overrideAllCogsBp = none ∧ input.cogsMarkupBp = none) ∧
        input.fallbackCogsBp = none := by
    simpa [WorkspaceSettingsUpdateInput.hasCogs] using h
  rw [WorkspaceSettingsUpdateInput.patch, hoverride, hmarkup, hfallback]
  rfl

/-- An update of a workspace that exists answers its patched settings, and leaves them. -/
theorem updateWorkspaceSettings_eq (stamp : Stamp) (input : WorkspaceSettingsUpdateInput)
    {settings : WorkspaceSettingsRow} (h : settingsOf workspaceId s = some settings) :
    ∃ s', updateWorkspaceSettings workspaceId stamp input s =
        .ok (input.patch stamp.now settings, s') ∧
      settingsOf workspaceId s' = some (input.patch stamp.now settings) := by
  obtain ⟨row, hrow, rfl⟩ := Option.map_eq_some_iff.mp h
  obtain ⟨updated, hupdated⟩ : ∃ updated : Store Row, updated = Function.update s .workspaces
    ((s .workspaces).map fun w => if decide (w.id = workspaceId) then input.set stamp w else w) :=
    ⟨_, rfl⟩
  have hworkspace : (updated .workspaces).find? (fun w => decide (w.id = workspaceId)) =
      some (input.set stamp row) := by
    rw [hupdated, Function.update_self, find?_updateWorkspace (input.set stamp) (fun _ => rfl), hrow,
      Option.map_some]
  have hcogs : updated .cogsSettings = s .cogsSettings := by
    rw [hupdated]
    exact Function.update_of_ne (by decide) _ _
  -- What is read back is what is left.
  have hread : ∀ (s' : Store Row) x, settingsOf workspaceId s' = some x →
      getWorkspaceSettings workspaceId s' = .ok (x, s') := by
    intro s' x hs'
    rw [getWorkspaceSettings_eq, hs']
    rfl
  have hupdate := updateWorkspace_eq workspaceId (input.set stamp) s
  rw [← hupdated] at hupdate
  rw [updateWorkspaceSettings, andThen_of_ok hupdate]
  cases hgiven : input.hasCogs with
  | true =>
    obtain ⟨cogs, rows, hafter, hfind, hupsert⟩ := upsertCogs_eq stamp input hworkspace
    rw [hcogs] at hafter
    have hsettings : settingsOf workspaceId (Function.update updated .cogsSettings rows) =
        some (input.patch stamp.now (settingsRow row
          ((s .cogsSettings).find? fun c => decide (c.workspaceId = workspaceId)))) := by
      rw [settingsOf, Function.update_self, hfind,
        Function.update_of_ne (by decide : Table.workspaces ≠ .cogsSettings), hworkspace,
        Option.map_some, hafter, patch_eq]
    refine ⟨_, ?_, hsettings⟩
    rw [if_pos rfl, andThen_of_ok hupsert]
    exact hread _ _ hsettings
  | false =>
    have hsettings : settingsOf workspaceId updated =
        some (input.patch stamp.now (settingsRow row
          ((s .cogsSettings).find? fun c => decide (c.workspaceId = workspaceId)))) := by
      rw [settingsOf, hworkspace, hcogs, Option.map_some, patch_noCogs stamp hgiven]
    refine ⟨_, ?_, hsettings⟩
    rw [if_neg Bool.false_ne_true]
    exact hread _ _ hsettings

/-! Without a workspace -/

theorem settingsOf_eq_none :
    settingsOf workspaceId s = none ↔
      (s .workspaces).find? (fun w => decide (w.id = workspaceId)) = none :=
  Option.map_eq_none_iff

/-- An update finds no row. -/
theorem updateWorkspace_missing (set : WorkspaceRow → WorkspaceRow)
    (h : settingsOf workspaceId s = none) :
    updateWorkspace workspaceId set s = .ok ([], s) := by
  have hnone := List.find?_eq_none.mp (settingsOf_eq_none.mp h)
  have hsame : ((s .workspaces).map fun w => if decide (w.id = workspaceId) then set w else w) =
      s .workspaces :=
    (List.map_congr_left fun w hw => if_neg (hnone w hw)).trans (List.map_id _)
  rw [updateWorkspace_eq, hsame, List.filter_eq_nil_iff.mpr hnone, Function.update_eq_self]
  rfl

theorem updateWorkspaceSettings_missing (stamp : Stamp) (input : WorkspaceSettingsUpdateInput)
    (h : settingsOf workspaceId s = none) :
    ∃ e, updateWorkspaceSettings workspaceId stamp input s = .error e := by
  rw [updateWorkspaceSettings, andThen_of_ok (updateWorkspace_missing _ h)]
  split
  · obtain ⟨cogs, rows, hupsert, -, -⟩ := find?_upsert Failure
      (fun c : CogsSettingsRow => decide (c.workspaceId = workspaceId)) (input.setCogs stamp)
      (input.newCogs workspaceId stamp) (fun _ h => h) (decide_eq_true rfl) (s .cogsSettings)
    have hworkspace : (Function.update s .cogsSettings rows .workspaces).find?
        (fun w => decide (w.id = workspaceId)) = none := by
      rw [Function.update_of_ne (by decide : Table.workspaces ≠ .cogsSettings)]
      exact settingsOf_eq_none.mp h
    have hfails : upsertCogs workspaceId stamp input s =
        .error (.foreignKeyViolation "workspace_cogs_settings_workspace_id_fkey") := by
      simp only [upsertCogs, Tx.andThen, Tx.on]
      rw [hupsert]
      exact references_missing _ cogs hworkspace
    exact ⟨_, andThen_of_error hfails⟩
  · refine ⟨.notFound (workspaceNotFound workspaceId), ?_⟩
    rw [getWorkspaceSettings_eq, h]
    rfl

/-! ### The other requests -/

/-- A transaction that leaves the settings as they are. -/
structure Untouched (tx : Work β) : Prop where
  workspaces : Leaves .workspaces tx
  cogsSettings : Leaves .cogsSettings tx

theorem Untouched.settingsOf {tx : Work β} (h : Untouched tx) (s : Store Row) :
    settingsOf workspaceId (tx.attempt s).2 = settingsOf workspaceId s := by
  unfold Settings.settingsOf
  rw [attempt_leaves h.workspaces, attempt_leaves h.cogsSettings]

theorem untouched_done (b : β) : Untouched (Tx.done b : Work β) :=
  ⟨leaves_done _ b, leaves_done _ b⟩

theorem untouched_fail (e : Failure) : Untouched (Tx.fail e : Work β) :=
  ⟨leaves_fail _ e, leaves_fail _ e⟩

theorem untouched_andThen {γ : Type} {tx : Work β} {f : β → Work γ} (h : Untouched tx)
    (hf : ∀ b, Untouched (f b)) : Untouched (tx.andThen f) where
  workspaces := leaves_andThen h.workspaces fun b => (hf b).workspaces
  cogsSettings := leaves_andThen h.cogsSettings fun b => (hf b).cogsSettings

theorem untouched_on {t : Table} (hworkspaces : .workspaces ≠ t) (hcogs : .cogsSettings ≠ t)
    (f : Statement Failure (Row t) β) : Untouched (Tx.on t f) :=
  ⟨leaves_on hworkspaces f, leaves_on hcogs f⟩

theorem untouched_select (t : Table) (picks : Row t → Bool) :
    Untouched (Tx.on t (select picks) : Work (List (Row t))) :=
  ⟨leaves_select _ t picks, leaves_select _ t picks⟩

theorem untouched_firstRow (message : String) (rows : List β) :
    Untouched (firstRow message rows) := by
  unfold firstRow
  cases rows.head? with
  | some row => exact untouched_done row
  | none => exact untouched_fail _

theorem untouched_references (constraint : String) (row : β) :
    Untouched (references workspaceId constraint row) := by
  unfold references
  refine untouched_andThen (untouched_select _ _) fun rows => ?_
  split
  · exact untouched_fail _
  · exact untouched_done row

theorem untouched_responding {tx : Work β} (h : Untouched tx) (response : β → Response) :
    Untouched (responding tx response) :=
  untouched_andThen h fun b => untouched_done (response b)

/-- A statement on another table, with what follows it. -/
theorem untouched_referring {t : Table} (hworkspaces : .workspaces ≠ t) (hcogs : .cogsSettings ≠ t)
    (f : Statement Failure (Row t) β) (constraint : String) :
    Untouched ((Tx.on t f).andThen (references workspaceId constraint)) :=
  untouched_andThen (untouched_on hworkspaces hcogs f) (untouched_references constraint)

theorem untouched_first {t : Table} (hworkspaces : .workspaces ≠ t) (hcogs : .cogsSettings ≠ t)
    (f : Statement Failure (Row t) (List β)) (message : String) :
    Untouched ((Tx.on t f).andThen (firstRow message)) :=
  untouched_andThen (untouched_on hworkspaces hcogs f) (untouched_firstRow message)

theorem untouched_selectWorkspace : Untouched (selectWorkspace workspaceId) :=
  untouched_andThen (untouched_select _ _) (untouched_firstRow _)

theorem untouched_listing {t : Table} (picks : Row t → Bool) (order : List (Row t) → β) :
    Untouched ((Tx.on t (select picks)).andThen fun rows => (Tx.done (order rows) : Work β)) :=
  untouched_andThen (untouched_select t picks) fun rows => untouched_done (order rows)

/-! ### Requests on the settings -/

theorem attempt_of_ok {tx : Work β} {b : β} {s' : Store Row} (h : tx s = .ok (b, s')) :
    tx.attempt s = (.ok b, s') := by
  simp only [Tx.attempt, h]

theorem attempt_of_error {tx : Work β} {e : Failure} (h : tx s = .error e) :
    tx.attempt s = (.error e, s) := by
  simp only [Tx.attempt, h]

theorem responding_of_ok {tx : Work β} {b : β} {s' : Store Row} (h : tx s = .ok (b, s'))
    (response : β → Response) : responding tx response s = .ok (response b, s') :=
  andThen_of_ok h

theorem responding_of_error {tx : Work β} {e : Failure} (h : tx s = .error e)
    (response : β → Response) : responding tx response s = .error e :=
  andThen_of_error h

theorem settingsOf_setFounderSalary (input : SetFounderSalaryInput) (s : Store Row) :
    settingsOf workspaceId
        ((responding (setFounderSalary workspaceId stamp input) .founderSalary).attempt s).2 =
      (settingsOf workspaceId s).map fun row => { row with updatedAt := stamp.now } := by
  obtain ⟨set, hset⟩ : ∃ set : WorkspaceRow → WorkspaceRow, set = fun w => { w with
      founderSalaryMonthlyMu := some input.amountMu
      founderSalaryCurrency := some input.currencyCode
      updatedAt := stamp.now } := ⟨_, rfl⟩
  have hkeeps : ∀ r, (set r).id = r.id := by
    intro r
    rw [hset]
  cases hsettings : settingsOf workspaceId s with
  | some settings =>
    obtain ⟨row, hrow, rfl⟩ := Option.map_eq_some_iff.mp hsettings
    obtain ⟨updated, hupdated⟩ : ∃ updated : Store Row, updated = Function.update s .workspaces
      ((s .workspaces).map fun w => if decide (w.id = workspaceId) then set w else w) := ⟨_, rfl⟩
    have hupdate := updateWorkspace_eq workspaceId set s
    have hfirst : firstRow (workspaceNotFound workspaceId)
        (((s .workspaces).filter fun w => decide (w.id = workspaceId)).map set) =
          Tx.done (set row) := by
      rw [firstRow, List.head?_map, List.head?_filter, hrow]
      rfl
    have hdone : setFounderSalary workspaceId stamp input s =
        .ok ((set row).founderSalary, updated) := by
      rw [← hupdated] at hupdate
      rw [setFounderSalary, ← hset]
      refine andThen_of_ok ?_
      rw [andThen_of_ok hupdate, hfirst]
      rfl
    have hafter : settingsOf workspaceId updated = some (settingsRow (set row)
        ((s .cogsSettings).find? fun c => decide (c.workspaceId = workspaceId))) := by
      rw [settingsOf, hupdated, Function.update_self, find?_updateWorkspace set hkeeps, hrow]
      rfl
    rw [attempt_of_ok (responding_of_ok hdone _)]
    refine hafter.trans ?_
    rw [hset]
    rfl
  | none =>
    have hfails : setFounderSalary workspaceId stamp input s =
        .error (.notFound (workspaceNotFound workspaceId)) := by
      rw [setFounderSalary, ← hset]
      refine andThen_of_error ?_
      rw [andThen_of_ok (updateWorkspace_missing set hsettings)]
      rfl
    rw [attempt_of_error (responding_of_error hfails _)]
    exact hsettings

theorem settingsOf_updateWorkspaceSettings (input : WorkspaceSettingsUpdateInput) (s : Store Row) :
    settingsOf workspaceId
        ((responding (updateWorkspaceSettings workspaceId stamp input) .settings).attempt s).2 =
      (settingsOf workspaceId s).map (input.patch stamp.now) := by
  cases hsettings : settingsOf workspaceId s with
  | some settings =>
    obtain ⟨s', hupdate, hafter⟩ := updateWorkspaceSettings_eq stamp input hsettings
    rw [attempt_of_ok (responding_of_ok hupdate _)]
    exact hafter
  | none =>
    obtain ⟨e, hfails⟩ := updateWorkspaceSettings_missing stamp input hsettings
    rw [attempt_of_error (responding_of_error hfails _)]
    exact hsettings

/-- The rows that go with the workspace are those of other tables. -/
theorem leaves_cascade {t : Table} (f : (t : Table) → Statement Failure (Row t) β)
    (ts : List Table) (h : t ∉ ts) : Leaves t (Tx.onEach f ts) := by
  induction ts with
  | nil => exact leaves_done t ()
  | cons t' ts ih =>
    have hne : t ≠ t' := List.ne_of_not_mem_cons h
    exact leaves_andThen (leaves_on hne _) fun _ => ih (List.not_mem_of_not_mem_cons h)

/-- Nothing keeps them. -/
theorem cascade_ok (workspaceId : String) (ts : List Table) (s : Store Row) :
    ∃ s', Tx.onEach (fun t =>
      (fun rows => (delete (fun r => decide (owner t r = workspaceId)) rows).map fun out =>
        ((), out.2) : Statement Failure (Row t) Unit)) ts s = .ok ((), s') := by
  induction ts generalizing s with
  | nil => exact ⟨s, rfl⟩
  | cons t ts ih => exact ih _

/-- The row of the workspace is gone. -/
theorem find?_delete (s : Store Row) :
    ((s .workspaces).filter fun w => !decide (w.id = workspaceId)).find?
      (fun w => decide (w.id = workspaceId)) = none := by
  refine List.find?_eq_none.mpr fun w hw => ?_
  exact Bool.eq_false_iff.mp ((Bool.not_eq_true' _).mp (List.mem_filter.mp hw).2)

theorem settingsOf_deleteWorkspace (restricted : Bool) (s : Store Row) :
    settingsOf workspaceId
        ((responding (deleteWorkspace workspaceId restricted) fun _ => .deleted).attempt s).2 =
      if restricted then settingsOf workspaceId s else none := by
  obtain ⟨deleted, hdeleted⟩ : ∃ deleted : Store Row, deleted = Function.update s .workspaces
    ((s .workspaces).filter fun w => !decide (w.id = workspaceId)) := ⟨_, rfl⟩
  have hon : Tx.on .workspaces (delete fun w => decide (w.id = workspaceId)) s =
      (.ok ((s .workspaces).filter fun w => decide (w.id = workspaceId), deleted) :
        Except Failure _) := by
    rw [hdeleted]
    rfl
  cases hrow : (s .workspaces).find? fun w => decide (w.id = workspaceId) with
  | none =>
    have hnone : settingsOf workspaceId s = none := settingsOf_eq_none.mpr hrow
    have hfails : deleteWorkspace workspaceId restricted s =
        .error (.notFound (workspaceNotFound workspaceId)) := by
      refine andThen_of_error ?_
      rw [andThen_of_ok hon, firstRow, List.head?_filter, hrow]
      rfl
    rw [attempt_of_error (responding_of_error hfails _), hnone, ite_self]
  | some row =>
    have hfirst : ((Tx.on .workspaces (delete fun w => decide (w.id = workspaceId))).andThen
        (firstRow (workspaceNotFound workspaceId))) s = (.ok (row, deleted) : Except Failure _) := by
      rw [andThen_of_ok hon, firstRow, List.head?_filter, hrow]
      rfl
    cases restricted with
    | true =>
      have hfails : deleteWorkspace workspaceId true s =
          .error (.foreignKeyViolation "subject_erasure_request_workspace_id_fkey") := by
        rw [deleteWorkspace, andThen_of_ok hfirst]
        rfl
      rw [attempt_of_error (responding_of_error hfails _)]
      rfl
    | false =>
      obtain ⟨s', hcascade⟩ := cascade_ok workspaceId cascaded deleted
      have hdone : deleteWorkspace workspaceId false s = .ok ((), s') := by
        rw [deleteWorkspace, andThen_of_ok hfirst]
        exact hcascade
      have hgone : s' .workspaces = deleted .workspaces :=
        leaves_cascade _ cascaded (by decide) deleted _ hcascade
      have hnone : settingsOf workspaceId s' = none := by
        rw [settingsOf_eq_none, hgone, hdeleted, Function.update_self]
        exact find?_delete s
      rw [attempt_of_ok (responding_of_ok hdone _)]
      exact hnone

end

/-! ### Runs -/

section

variable {workspaceId : String} (db : Database)

/-- A request of the workspace does to its settings what is registered of it. -/
theorem settingsOf_step (r : Request) (h : r.workspaceId = workspaceId) (s : Store Row) :
    settingsOf workspaceId (step (perform db) s r) = register (settingsOf workspaceId s) r := by
  subst h
  obtain ⟨workspaceId, stamp, useCase⟩ := r
  have huntouched : ∀ {β : Type} {tx : Work β}, Untouched tx → ∀ response : β → Response,
      settingsOf workspaceId ((responding tx response).attempt s).2 = settingsOf workspaceId s :=
    fun h response => (untouched_responding h response).settingsOf s
  cases useCase with
  | createCost input =>
    exact huntouched (untouched_referring (by decide) (by decide) _ _) _
  | updateCost costId input =>
    exact huntouched (untouched_first (by decide) (by decide) _ _) _
  | deleteCost costId =>
    exact huntouched (untouched_first (by decide) (by decide) _ _) _
  | createMiscExpense input =>
    exact huntouched (untouched_referring (by decide) (by decide) _ _) _
  | updateMiscExpense id input =>
    exact huntouched (untouched_first (by decide) (by decide) _ _) _
  | deleteMiscExpense id =>
    exact huntouched (untouched_first (by decide) (by decide) _ _) _
  | getFounderSalary =>
    exact huntouched (untouched_andThen untouched_selectWorkspace fun _ => untouched_done _) _
  | setFounderSalary input => exact settingsOf_setFounderSalary input s
  | getWorkspaceSettings =>
    refine huntouched ?_ _
    refine untouched_andThen untouched_selectWorkspace fun row => ?_
    exact untouched_andThen (untouched_select _ _) fun cogs => untouched_done _
  | updateWorkspaceSettings input => exact settingsOf_updateWorkspaceSettings input s
  | deleteWorkspace restricted =>
    refine (settingsOf_deleteWorkspace restricted s).trans ?_
    cases restricted with
    | true => rfl
    | false => rfl
  | createGoal input =>
    exact huntouched (untouched_referring (by decide) (by decide) _ _) _
  | updateGoal goalId input =>
    exact huntouched (untouched_first (by decide) (by decide) _ _) _
  | deleteGoal goalId =>
    exact huntouched (untouched_first (by decide) (by decide) _ _) _
  | upsertAdCampaignClassification input =>
    exact huntouched (untouched_referring (by decide) (by decide) _ _) _
  | createFestival input =>
    exact huntouched (untouched_referring (by decide) (by decide) _ _) _
  | updateFestival id input =>
    exact huntouched (untouched_first (by decide) (by decide) _ _) _
  | deleteFestival id =>
    exact huntouched (untouched_first (by decide) (by decide) _ _) _
  | resetFestivalDefaults =>
    exact huntouched (untouched_andThen (untouched_on (by decide) (by decide) _)
      fun _ => untouched_done _) _
  | listCosts => exact huntouched (untouched_listing _ _) _
  | listGoals => exact huntouched (untouched_listing _ _) _
  | listFestivals => exact huntouched (untouched_listing _ _) _
  | listMarketingActions dateStart dateEnd => exact huntouched (untouched_listing _ _) _
  | createMarketingAction input =>
    exact huntouched (untouched_referring (by decide) (by decide) _ _) _
  | updateMarketingAction id input =>
    exact huntouched (untouched_first (by decide) (by decide) _ _) _
  | deleteMarketingAction id =>
    exact huntouched (untouched_first (by decide) (by decide) _ _) _

theorem settingsOf_run (requests : List Request)
    (h : ∀ r ∈ requests, r.workspaceId = workspaceId) (s : Store Row) :
    settingsOf workspaceId (Runs.exec (step (perform db)) s requests) =
      requests.foldl register (settingsOf workspaceId s) := by
  induction requests generalizing s with
  | nil => rfl
  | cons r requests ih =>
    have hr := settingsOf_step db r (h r List.mem_cons_self) s
    have hrest := ih (fun r' hr' => h r' (List.mem_cons_of_mem r hr')) (step (perform db) s r)
    rw [hr] at hrest
    exact hrest

/-- What the workspace is answered that reads its settings. -/
def readBack (workspaceId : String) : Option WorkspaceSettingsRow → Except Failure Response
  | some row => .ok (.settings row)
  | none => .error (.notFound (workspaceNotFound workspaceId))

theorem answer_getWorkspaceSettings (stamp : Stamp) (s : Store Row) :
    answer (perform db) s ⟨workspaceId, stamp, .getWorkspaceSettings⟩ =
      readBack workspaceId (settingsOf workspaceId s) := by
  have hget : getWorkspaceSettings workspaceId s = _ := getWorkspaceSettings_eq s
  cases hsettings : settingsOf workspaceId s with
  | some row =>
    rw [hsettings] at hget
    have hdone := attempt_of_ok (responding_of_ok hget Response.settings)
    exact congrArg Prod.fst hdone
  | none =>
    rw [hsettings] at hget
    have hfails := attempt_of_error (responding_of_error hget Response.settings)
    exact congrArg Prod.fst hfails

/-- After any run, of requests of any workspaces, a workspace reads the settings that its own
updates, one after the other, have made of the row it had. -/
theorem settings_read_back (workspaceId : String) (stamp : Stamp) (s : Store Row)
    (requests : List Request) :
    answer (perform db) (Runs.exec (step (perform db)) s requests)
        ⟨workspaceId, stamp, .getWorkspaceSettings⟩ =
      readBack workspaceId ((requests.filter fun r => decide (r.workspaceId = workspaceId)).foldl
        register (settingsOf workspaceId s)) := by
  obtain ⟨hown, -⟩ := run_alone (perform_alone db) workspaceId s requests
  have hrun := settingsOf_run db (requests.filter fun r => decide (r.workspaceId = workspaceId))
    (fun r hr => of_decide_eq_true (List.mem_filter.mp hr).2) (ownStore owner workspaceId s)
  rw [answer_getWorkspaceSettings, ← settingsOf_own, hown, hrun, settingsOf_own]

end

end BrainV2.Settings
