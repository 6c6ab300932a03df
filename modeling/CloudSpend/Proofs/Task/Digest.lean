import CloudSpend.Proofs.Api.Isolation
import CloudSpend.Proofs.Cost.StoredAndLive
import CloudSpend.Proofs.Data.Ranking
import CloudSpend.Proofs.Source.Ingest
import CloudSpend.Task.Digest
import Mathlib.Data.List.ProdSigma

/-! # Who is told of a day -/

namespace CloudSpend

open List Store

namespace Run

def Succeeds {α : Type} (x : Run α) : Prop := ∀ w, ∃ a w', exec x w = (.ok a, w')

variable {α β : Type} {x : Run α} {f : α → Run β}

lemma succeeds_pure (a : α) : Succeeds (pure a) := fun w => ⟨a, w, rfl⟩

lemma succeeds_liftM {r : Result α} (h : ∃ a, r = .ok a) : Succeeds (liftM r : Run α) :=
  fun w => h.imp fun _ ha => ⟨w, by rw [exec_liftM, ha]⟩

lemma Succeeds.bind (hx : Succeeds x) (hf : ∀ a, Succeeds (f a)) : Succeeds (x >>= f) := by
  intro w
  obtain ⟨a, w', ha⟩ := hx w
  rw [exec_bind_ok ha]
  exact hf a w'

lemma succeeds_recover (x : Run α) (a : α) : Succeeds (recover x fun _ => pure a) := by
  intro w
  rw [exec_recover]
  rcases exec x w with ⟨e | b, w'⟩
  · exact ⟨a, w', rfl⟩
  · exact ⟨b, w', rfl⟩

lemma exec_forIn_yield {f : α → PUnit → Run (ForInStep PUnit)} (g : World → α → World) {as : List α}
    (h : ∀ a ∈ as, ∀ w, exec (f a PUnit.unit) w = (.ok (.yield PUnit.unit), g w a)) (w : World) :
    exec (forIn as PUnit.unit f) w = (.ok PUnit.unit, as.foldl g w) := by
  induction as generalizing w with
  | nil => simp
  | cons a as ih =>
    rw [forIn_cons, exec_bind_ok (h a mem_cons_self w), foldl_cons]
    exact ih (fun b hb => h b (mem_cons_of_mem _ hb)) _

end Run

open Run

namespace Task

lemma exists_float_of_add {x : Float} {v r : Value} (h : Value.add (.float x) v = .ok r) : ∃ y, r = .float y := by
  cases hv : v.isNumber with
  | true =>
    rcases Cost.add_float x hv with ⟨y, hy⟩ | herr
    · exact ⟨y, Except.ok.inj (h.symm.trans hy)⟩
    · cases herr.symm.trans h
  | false => cases v <;> first | (cases h; done) | cases hv

lemma isBinary_ofRecords {rs : List (Cost.Record Value Date Value)} {totals : Cost.Totals Value Value}
    (h : Cost.Totals.ofRecords rs = .ok totals) : totals.IsBinary := by
  refine Result.foldlM_invariant (P := Cost.Totals.IsBinary) (by simp [Cost.Totals.IsBinary]) ?_ h
  intro r _ start next hsta hnext
  obtain ⟨x, hx⟩ := hsta.get?_getD r.service
  unfold Cost.Totals.add Arithmetic.accumulate at hnext
  rw [hx] at hnext
  obtain ⟨sum, hsum, rfl⟩ := Result.map_eq_ok.mp hnext
  obtain ⟨y, rfl⟩ := exists_float_of_add hsum
  exact hsta.put _ y

variable {s : Store} {account alert : Row} {day : Date}

lemma exists_float_of_dayServices {services : List (Value × Value)} (h : dayServices s account day = .ok services) :
    ∀ t ∈ services, ∃ x, t.2 = .float x := by
  intro t ht
  obtain ⟨totals, htot, h⟩ := Result.of_bind_ok h
  obtain ⟨t0, ht0, hrou⟩ := exists_of_mem_of_forall₂ (Billing.forall₂_of_mapM h) ht
  obtain ⟨amount, hamo, hrou⟩ := Result.of_bind_ok hrou
  cases hrou
  obtain ⟨total, htta, rfl⟩ := mem_map.mp ht0
  have hmem : total ∈ totals := mem_mergeSort.mp ((Arithmetic.descending_perm _ _).mem_iff.mp htta)
  obtain ⟨x, hx⟩ := isBinary_ofRecords htot total hmem
  have hreal : Value.round (realCell x) 2 = .ok amount := by
    dsimp only at hamo
    rwa [hx] at hamo
  unfold realCell at hreal
  split at hreal
  · cases hreal
  · unfold Value.round at hreal
    grind

def IsTotal (v : Value) : Prop := v = .int 0 ∨ ∃ x, v = .float x

lemma isTotal_sum {xs : List Value} {total : Value} (hxs : ∀ v ∈ xs, ∃ x, v = .float x)
    (h : Arithmetic.sum xs = .ok total) : IsTotal total := by
  refine Result.foldlM_invariant (P := IsTotal) (.inl rfl) (fun v hv start next hsta hnext => .inr ?_) h
  obtain ⟨x, rfl⟩ := hxs v hv
  rcases hsta with rfl | ⟨y, rfl⟩
  · exact ⟨_, (Except.ok.inj hnext).symm⟩
  · exact exists_float_of_add hnext

open Notification

structure IsTellable (digest : Summary) : Prop where
  lines : ∀ n, ∃ lines, ServiceLine.first n digest.services = .ok lines
  total : ∃ text, digest.total.places 2 = .ok text
  anomalies : ∃ b, digest.anomalies.gt (.int 0) = .ok b

lemma isTellable_digestOf {digest : Summary} (h : digestOf s account day = .ok digest) : IsTellable digest := by
  obtain ⟨services, hser, h⟩ := Result.of_bind_ok h
  obtain ⟨total, htot, h⟩ := Result.of_bind_ok h
  cases h
  have hflo := exists_float_of_dayServices hser
  refine ⟨fun n => Billing.exists_mapM_eq_ok fun row hrow => ?_, ?_, ?_⟩
  · obtain ⟨t, ht, rfl⟩ := mem_map.mp (mem_of_mem_take hrow)
    obtain ⟨x, hx⟩ := hflo t ht
    rw [hx]
    exact ⟨_, rfl⟩
  · have hsum : IsTotal total := isTotal_sum (by simpa using fun b a hb => hflo (a, b) hb) htot
    rcases hsum with rfl | ⟨x, rfl⟩
    · exact ⟨_, rfl⟩
    · exact ⟨_, rfl⟩
  · simp [Value.gt, Value.lt, Value.precedes, Value.isNumber]

lemma succeeds_mailSend (address : String) (subject : Value) {html : String} (h : Mail.startsWithKey html = false) :
    Succeeds (Mail.send (.text address) subject (.text html)) := by
  have hrow : ∃ row, Mail.recipientRow (.text address) = .ok row := by
    unfold Mail.recipientRow
    split <;> simp_all
  have hkeys : ∃ u, Mail.refuseKeys (.text html) = .ok u := ⟨(), by simp [Mail.refuseKeys, Mail.refuseKey, h]⟩
  intro w
  unfold Mail.send
  rw [exec_bind_ok (exec_get w)]
  cases hmail : w.outside.mail with
  | none => exact ⟨false, w, rfl⟩
  | some reply =>
    refine ((succeeds_liftM hrow).bind fun row => (succeeds_liftM hkeys).bind fun _ => ?_) w
    split
    · refine Succeeds.bind (fun w' => ⟨_, _, exec_set w' _⟩) fun _ => ?_
      cases reply <;> exact succeeds_pure _
    · exact succeeds_pure _

lemma startsWithKey_summaryPage (account day total notice rows : String) :
    Mail.startsWithKey (Mail.summaryPage account day total notice rows) = false := by
  have happ : ∀ start more : String, (∃ rest, start.toList = '\n' :: rest) →
      ∃ rest, (start ++ more).toList = '\n' :: rest := by
    rintro start more ⟨rest, hrest⟩
    exact ⟨rest ++ more.toList, by rw [String.toList_append, hrest, cons_append]⟩
  obtain ⟨rest, hrest⟩ : ∃ rest, (Mail.summaryPage account day total notice rows).toList = '\n' :: rest := by
    unfold Mail.summaryPage Mail.page
    repeat apply happ
    exact ⟨"        <html>\n".toList, by decide⟩
  rw [Mail.startsWithKey, hrest]
  rfl

namespace IsTellable

variable {digest : Summary} (h : IsTellable digest)
include h

lemma succeeds_chat (channel : Value) : Succeeds (Chat.sendSummary channel digest) :=
  (succeeds_liftM (h.lines 5)).bind fun _ => (succeeds_liftM h.anomalies).bind fun _ =>
    (succeeds_liftM h.total).bind fun _ => succeeds_recover _ _

lemma succeeds_mail (address : String) (day : Date) :
    Succeeds (Mail.sendSummary (.text address) digest (.date day)) := by
  refine Succeeds.bind (fun w => ⟨_, w, exec_today w⟩) fun _ => (succeeds_liftM (h.lines 10)).bind fun _ =>
    (succeeds_liftM h.anomalies).bind fun _ => (succeeds_liftM ⟨_, rfl⟩).bind fun _ =>
    (succeeds_liftM h.total).bind fun _ => ?_
  apply succeeds_mailSend
  exact startsWithKey_summaryPage _ _ _ _ _

end IsTellable

def isReached (alert : Row) : Bool :=
  textCell alert "channel" == "email" && (cell alert "email_address").truthy ||
    textCell alert "channel" == "slack" && (cell alert "slack_webhook_url").truthy

def isDue (p : Row × Row) : Bool :=
  holds "status" "active" p.1 && ((cell p.2 "daily_summary").truthy && (holds "user_id" (cell p.1 "user_id") p.2 &&
    isReached p.2))

def message (alert : Row) (digest : Summary) (day : Date) : Run Bool :=
  if textCell alert "channel" == "email" then Mail.sendSummary (cell alert "email_address") digest (.date day)
  else Chat.sendSummary (cell alert "slack_webhook_url") digest

def attempt (s : Store) (day : Date) (p : Row × Row) : Run Bool := do
  message p.2 (← liftM (digestOf s p.1 day)) day

def check (s : Store) (day : Date) (account : Row) : Result Unit := do
  discard (digestOf s account day)
  discard (dueBudgets s account)

def isChecked (s : Store) (day : Date) (account : Row) : Bool := (check s day account).isOk

def due (s : Store) : List (Row × Row) := (s.rows .awsAccounts ×ˢ s.rows .alertConfigs).filter isDue

def attempted (s : Store) (day : Date) : List (Row × Row) :=
  ((activeAccounts s).takeWhile (isChecked s day) ×ˢ s.rows .alertConfigs).filter isDue

def messagesOf (s : Store) (account : Row) : List (Row × Row) := ((alertsOf s account).filter isReached).map (account, ·)

def outcome (s : Store) (day : Date) : Result Unit :=
  if (digestAlerts s).isEmpty then .ok () else forM (activeAccounts s) (check s day)

def after (s : Store) (day : Date) (w : World) (ps : List (Row × Row)) : World :=
  ps.foldl (fun w p => (exec (attempt s day p) w).2) w

lemma after_append (s : Store) (day : Date) (w : World) (ps qs : List (Row × Row)) :
    after s day w (ps ++ qs) = after s day (after s day w ps) qs := foldl_append

def IsAddressed (alert : Row) : Prop :=
  (cell alert "email_address").truthy = true → ∃ address, cell alert "email_address" = .text address

structure Legible (s : Store) : Prop where
  accounts : ∀ row ∈ s.rows .awsAccounts, Table.strangeWord? .awsAccounts row = none
  alerts : ∀ row ∈ s.rows .alertConfigs, Table.strangeWord? .alertConfigs row = none
  addresses : ∀ row ∈ s.rows .alertConfigs, IsAddressed row

lemma deliver_eq (alert : Row) (digest : Summary) (day : Date) :
    deliver alert digest day = if isReached alert then discard (message alert digest day) else pure () := by
  unfold deliver
  dsimp only
  split
  · next h => cases ha : (cell alert "email_address").truthy <;> simp [isReached, message, h, ha]
  · next h => cases ha : (cell alert "slack_webhook_url").truthy <;> simp [isReached, message, h, ha]
  · next hmail hchat =>
    rw [isReached, beq_false_of_ne hmail, beq_false_of_ne hchat]
    rfl

lemma succeeds_message {digest : Summary} (hdig : IsTellable digest) (hrea : isReached alert = true)
    (hadd : IsAddressed alert) (day : Date) : Succeeds (message alert digest day) := by
  unfold message
  split
  · next hmail =>
    have htru : (cell alert "email_address").truthy = true := by
      simpa [isReached, eq_of_beq hmail] using hrea
    obtain ⟨address, hadd⟩ := hadd htru
    rw [hadd]
    exact hdig.succeeds_mail address day
  · exact hdig.succeeds_chat _

lemma filter_isDue_product (s : Store) (accounts : List Row) :
    (accounts ×ˢ s.rows .alertConfigs).filter isDue =
      (accounts.filter (holds "status" "active")).flatMap (messagesOf s) := by
  induction accounts with
  | nil => rfl
  | cons account accounts ih =>
    rw [product_cons, filter_append, ih, filter_map]
    cases hact : holds "status" "active" account with
    | true =>
      rw [filter_cons_of_pos hact, flatMap_cons, messagesOf, alertsOf, digestAlerts, select, filter_filter, filter_filter]
      congr 3
      funext alert
      simp [isDue, hact, Bool.and_comm, Bool.and_assoc]
    | false =>
      rw [filter_cons_of_neg (by simp [hact])]
      simp [isDue, hact, Function.comp_def]

lemma exec_attempt_eq {digest : Summary} (h : digestOf s account day = .ok digest) (w : World) :
    exec (attempt s day (account, alert)) w = exec (message alert digest day) w := by
  unfold attempt
  rw [h, exec_bind_ok (exec_liftM _ w)]

lemma exec_deliver {digest : Summary} (h : digestOf s account day = .ok digest) (hadd : IsAddressed alert)
    (w : World) : exec (deliver alert digest day) w =
      (.ok (), if isReached alert then (exec (attempt s day (account, alert)) w).2 else w) := by
  rw [deliver_eq, exec_attempt_eq h]
  cases hrea : isReached alert with
  | false => rfl
  | true =>
    obtain ⟨b, w', hsent⟩ := succeeds_message (isTellable_digestOf h) hrea hadd day w
    rw [if_pos rfl, if_pos rfl, hsent]
    exact (exec_bind_ok hsent _).trans rfl

lemma exec_sendDigestsOf (hs : Legible s) (account : Row) (w : World) :
    exec (sendDigestsOf s day account) w = (check s day account, if isChecked s day account then
      after s day w (messagesOf s account) else w) := by
  unfold sendDigestsOf isChecked check
  cases hdig : digestOf s account day with
  | error e => rfl
  | ok digest =>
    cases hbud : dueBudgets s account with
    | error e => rfl
    | ok budgets =>
      refine (exec_bind_ok (a := digest) rfl _).trans ((exec_bind_ok (a := PUnit.unit) rfl _).trans ?_)
      refine (exec_bind_ok (exec_forIn_yield (fun w alert =>
        if isReached alert then (exec (attempt s day (account, alert)) w).2 else w) (fun alert hale w => ?_) w) _).trans ?_
      · have hmem : alert ∈ s.rows .alertConfigs := mem_of_mem_filter (mem_of_mem_filter hale)
        exact exec_bind_ok (exec_deliver hdig (hs.addresses alert hmem) w) _
      · rw [after, messagesOf, foldl_map, foldl_filter]
        rfl

lemma exec_forIn_sendDigestsOf (hs : Legible s) (accounts : List Row) (service : Service) :
    Handler.exec (forIn accounts PUnit.unit fun account _ => do
      liftM (sendDigestsOf s day account)
      pure (.yield PUnit.unit)) service =
    (forM accounts (check s day), { service with
      world := after s day service.world ((accounts.takeWhile (isChecked s day)).flatMap (messagesOf s)) }) := by
  induction accounts generalizing service with
  | nil => rfl
  | cons account accounts ih =>
    have hfir := Handler.exec_liftM_run (sendDigestsOf s day account) service
    rw [exec_sendDigestsOf hs] at hfir
    rw [forIn_cons, forM_cons]
    cases hche : check s day account with
    | error e =>
      have hnot : isChecked s day account = false := by rw [isChecked, hche]; rfl
      rw [hche, hnot] at hfir
      rw [Handler.exec_bind_of_error (Handler.exec_bind_of_error hfir _), takeWhile_cons_of_neg (by simp [hnot])]
      rfl
    | ok u =>
      have hcec : isChecked s day account = true := by rw [isChecked, hche]; rfl
      rw [hche, hcec] at hfir
      rw [Handler.exec_bind_ok (Handler.exec_bind_ok hfir _), takeWhile_cons_of_pos hcec, flatMap_cons,
        after_append]
      exact ih _

lemma filter_isDue_of_active {accounts : List Row} (h : ∀ account ∈ accounts, account ∈ activeAccounts s) :
    (accounts ×ˢ s.rows .alertConfigs).filter isDue = accounts.flatMap (messagesOf s) := by
  rw [filter_isDue_product, filter_eq_self.mpr fun account hacc => of_mem_filter (h account hacc)]

lemma attempted_eq (s : Store) (day : Date) : attempted s day =
    ((activeAccounts s).takeWhile (isChecked s day)).flatMap (messagesOf s) :=
  filter_isDue_of_active fun _ hacc => (takeWhile_sublist _).subset hacc

lemma exec_readable {t : Table} {rows : List Row} {test : Row → Bool} (h : ∀ row ∈ rows, t.strangeWord? row = none)
    (service : Service) :
    Handler.exec (liftM (t.readable (rows.filter test))) service = (.ok (rows.filter test), service) :=
  Handler.exec_liftM_of_eq (Handler.readable_of_strangeWord? fun row hrow => h row (mem_of_mem_filter hrow)) service

theorem exec_sendDigests {service : Service} (hday : service.world.now.date.before 1 = .ok day)
    (hs : Legible service.store) : Handler.exec sendDigests service = (outcome service.store day, { service with
      world := after service.store day service.world (attempted service.store day) }) := by
  have hacc : Handler.exec (liftM (Table.readable .awsAccounts (activeAccounts service.store))) service =
      (.ok (activeAccounts service.store), service) := exec_readable hs.accounts service
  have hale : Handler.exec (liftM (Table.readable .alertConfigs (digestAlerts service.store))) service =
      (.ok (digestAlerts service.store), service) := exec_readable hs.alerts service
  unfold sendDigests
  rw [Handler.exec_bind_ok (Handler.exec_today service), Handler.exec_bind_ok (Handler.exec_liftM_of_eq hday service),
    Handler.exec_bind_ok (Handler.exec_get service), attempted_eq, outcome]
  dsimp only
  rw [Handler.exec_bind_ok hacc]
  cases hnone : activeAccounts service.store with
  | nil =>
    rw [if_pos isEmpty_nil]
    cases (digestAlerts service.store).isEmpty <;> rfl
  | cons account accounts =>
    rw [if_neg (by simp), Handler.exec_bind_ok hale]
    cases hmute : (digestAlerts service.store).isEmpty with
    | true =>
      have hnil : ((account :: accounts).takeWhile (isChecked service.store day)).flatMap (messagesOf service.store) = [] :=
        flatMap_eq_nil_iff.mpr fun account _ => by rw [messagesOf, alertsOf, isEmpty_iff.mp hmute]; rfl
      rw [hnil]
      rfl
    | false =>
      refine (Handler.exec_bind _ _ service).trans ?_
      rw [exec_forIn_sendDigestsOf hs]
      cases forM (account :: accounts) (check service.store day) <;> rfl

lemma attempted_eq_due_iff (s : Store) (day : Date) : attempted s day = due s ↔
    ∀ account ∈ (activeAccounts s).dropWhile (isChecked s day), ∀ alert ∈ s.rows .alertConfigs,
      isDue (account, alert) = false := by
  have hdue : due s = attempted s day ++
      ((activeAccounts s).dropWhile (isChecked s day) ×ˢ s.rows .alertConfigs).filter isDue := by
    have hact : (s.rows .awsAccounts).filter (holds "status" "active") = activeAccounts s := rfl
    rw [due, filter_isDue_product, hact, attempted_eq,
      filter_isDue_of_active fun _ hacc => (dropWhile_sublist _).subset hacc, ← flatMap_append,
      takeWhile_append_dropWhile]
  rw [hdue, self_eq_append_right, filter_eq_nil_iff]
  constructor
  · exact fun h account hacc alert hale => by simpa using h _ (mem_product.mpr ⟨hacc, hale⟩)
  · rintro h ⟨account, alert⟩ hmem
    obtain ⟨hacc, hale⟩ := mem_product.mp hmem
    simpa using h account hacc alert hale

lemma succeeds_attempt (hs : Legible s) {p : Row × Row} (hp : p ∈ attempted s day) : Succeeds (attempt s day p) := by
  obtain ⟨account, alert⟩ := p
  obtain ⟨hmem, hdue⟩ := mem_filter.mp hp
  obtain ⟨hacc, hale⟩ := mem_product.mp hmem
  have hche : isChecked s day account = true := mem_takeWhile_imp hacc
  cases hdig : digestOf s account day with
  | error e =>
    rw [isChecked, check, hdig] at hche
    cases hche
  | ok digest =>
    have hrea : isReached alert = true := by
      simp only [isDue, Bool.and_eq_true] at hdue
      exact hdue.2.2.2
    intro w
    rw [exec_attempt_eq hdig]
    exact succeeds_message (isTellable_digestOf hdig) hrea (hs.addresses alert hale) day w

def concerns (account : Row) (day : Date) (e : Entry) : Bool :=
  e.table == .costRecords && (ofAccount (cell account "id") e.row && dated (· == day) e.row) ||
    e.table == .anomalies && (ofAccount (cell account "id") e.row && dated day.le e.row &&
      !(cell e.row "acknowledged").truthy)

lemma select_filter {t : Table} {test : Row → Bool} {keep : Entry → Bool}
    (h : ∀ row, test row = true → keep ⟨t, row⟩ = true) (s : Store) :
    Store.select (s.filter keep) t test = Store.select s t test := by
  unfold select rows
  rw [filter_map, filter_map, filter_filter, filter_filter, filter_filter]
  congr 1
  refine filter_congr fun e _ => ?_
  obtain ⟨t', row⟩ := e
  grind

lemma digestOf_filter_concerns (s : Store) (account : Row) (day : Date) :
    digestOf (s.filter (concerns account day)) account day = digestOf s account day := by
  have hcos : Store.costs (s.filter (concerns account day)) (cell account "id") (· == day) =
      Store.costs s (cell account "id") (· == day) := select_filter (by simp +contextual [concerns]) s
  have hano : anomalyCount (s.filter (concerns account day)) account day = anomalyCount s account day :=
    congrArg length (select_filter (by simp +contextual [concerns]) s)
  rw [digestOf, digestOf, dayServices, dayServices, hcos, hano]

/-- **Digests stay within an owner.** Each message that is due for the accounts up to the first one that cannot be
worked out is attempted once, in order and whatever becomes of the others, and no other message is; these are all due
messages exactly if no account from there on is to be told of. -/
theorem digests_kept_apart {service : Service} (hday : service.world.now.date.before 1 = .ok day)
    (hs : Legible service.store) :
    Handler.exec sendDigests service = (outcome service.store day, { service with
      world := after service.store day service.world (attempted service.store day) }) ∧
    (∀ p ∈ attempted service.store day, Succeeds (attempt service.store day p)) ∧
    (attempted service.store day = due service.store ↔
      ∀ account ∈ (activeAccounts service.store).dropWhile (isChecked service.store day),
        ∀ alert ∈ service.store.rows .alertConfigs, isDue (account, alert) = false) ∧
    ∀ account, digestOf (service.store.filter (concerns account day)) account day = digestOf service.store account day :=
  ⟨exec_sendDigests hday hs, fun _ hp => succeeds_attempt hs hp, attempted_eq_due_iff _ _,
    fun account => digestOf_filter_concerns _ account day⟩

def accountEntry (id owner : String) : Entry :=
  ⟨.awsAccounts, [("id", .text id), ("user_id", .text owner), ("aws_account_id", .text id), ("status", "active")]⟩

def alertEntry (owner : String) (enabled : Bool) : Entry :=
  ⟨.alertConfigs, [("user_id", .text owner), ("channel", "slack"), ("is_enabled", .bool enabled),
    ("slack_webhook_url", "https://hooks.slack.com/a"), ("daily_summary", true)]⟩

def twoOwners : Service where
  world := Api.silentWorld
  store := [accountEntry "1" "a", accountEntry "2" "b", alertEntry "b" true]

lemma legible_of_no_mail (hacc : ∀ row ∈ s.rows .awsAccounts, Table.strangeWord? .awsAccounts row = none)
    (hale : ∀ row ∈ s.rows .alertConfigs, Table.strangeWord? .alertConfigs row = none ∧
      (cell row "email_address").truthy = false) : Legible s :=
  ⟨hacc, fun row hrow => (hale row hrow).1, fun row hrow h => by simp [(hale row hrow).2] at h⟩

theorem digests_kept_apart_of_two : attempted twoOwners.store ⟨2026, 1, 14⟩ = due twoOwners.store :=
  (@digests_kept_apart ⟨2026, 1, 14⟩ twoOwners (Result.eq_ok_of_toOption (by decide))
    (legible_of_no_mail (by decide +kernel) (by decide +kernel))).2.2.1.mpr (by decide +kernel)

/-- A budget of the first owner that cannot be read keeps the second one from being told. -/
theorem digest_kept_from_other_owner :
    let service := { twoOwners with
      store := ⟨.budgets, [("aws_account_id", "1"), ("is_active", true), ("period", "weekly")]⟩ :: twoOwners.store }
    (due service.store).length = 1 ∧ (Handler.exec sendDigests service).2.world.web.length = 0 ∧
      (Handler.exec sendDigests twoOwners).2.world.web.length = 1 := by
  decide +kernel

def switched (f : Row → Row) (s : Store) : Store :=
  s.map fun e => if e.table == .alertConfigs then { e with row := f e.row } else e

def Switches (f : Row → Row) : Prop := ∀ row column, column ≠ "is_enabled" → cell (f row) column = cell row column

lemma rows_switched (f : Row → Row) (s : Store) (t : Table) :
    Store.rows (switched f s) t = if t = .alertConfigs then (s.rows t).map f else s.rows t := by
  induction s with
  | nil => simp [switched, rows]
  | cons e s ih =>
    obtain ⟨t', row⟩ := e
    unfold rows switched at ih ⊢
    grind

section

variable {f : Row → Row} (hf : Switches f)
include hf

lemma strangeWord?_switch (row : Row) : Table.strangeWord? .alertConfigs (f row) = Table.strangeWord? .alertConfigs row := by
  simp only [Table.strangeWord?, Table.columns, findSome?_cons, Column.must, hf row "channel" (by decide)]
  rfl

lemma isDue_switch (account row : Row) : isDue (account, f row) = isDue (account, row) := by
  simp [isDue, isReached, textCell, holds, hf row]

lemma message_switch (row : Row) : message (f row) = message row := by
  funext digest day
  simp [message, textCell, hf row]

lemma legible_switched (hs : Legible s) : Legible (switched f s) := by
  have hale : ∀ row ∈ Store.rows (switched f s) .alertConfigs, ∃ old ∈ s.rows .alertConfigs, f old = row := by
    rw [rows_switched, if_pos rfl]
    exact fun row => mem_map.mp
  refine ⟨?_, fun row hrow => ?_, fun row hrow => ?_⟩
  · rw [rows_switched, if_neg (by decide)]
    exact hs.accounts
  · obtain ⟨old, hold, rfl⟩ := hale row hrow
    exact (strangeWord?_switch hf old).trans (hs.alerts old hold)
  · obtain ⟨old, hold, rfl⟩ := hale row hrow
    rw [IsAddressed, hf old "email_address" (by decide)]
    exact hs.addresses old hold

lemma digestAlerts_switched (s : Store) : digestAlerts (switched f s) = (digestAlerts s).map f := by
  unfold digestAlerts select
  rw [rows_switched, if_pos rfl, filter_map]
  congr 2
  funext row
  exact congrArg Value.truthy (hf row "daily_summary" (by decide))

omit hf in
lemma digestOf_switched (f : Row → Row) (s : Store) : digestOf (switched f s) = digestOf s := by
  funext account day
  unfold digestOf dayServices anomalyCount costs select
  rw [rows_switched, rows_switched, if_neg (by decide), if_neg (by decide)]

omit hf in
lemma check_switched (f : Row → Row) (s : Store) : check (switched f s) = check s := by
  funext day account
  unfold check dueBudgets select
  rw [digestOf_switched, rows_switched, if_neg (by decide)]

omit hf in
lemma activeAccounts_switched (f : Row → Row) (s : Store) : activeAccounts (switched f s) = activeAccounts s := by
  unfold activeAccounts select
  rw [rows_switched, if_neg (by decide)]

lemma attempted_switched (s : Store) (day : Date) :
    attempted (switched f s) day = (attempted s day).map (Prod.map id f) := by
  have hche : isChecked (switched f s) day = isChecked s day := by
    funext account
    rw [isChecked, check_switched, isChecked]
  unfold attempted
  rw [activeAccounts_switched, hche, rows_switched, if_pos rfl]
  generalize (activeAccounts s).takeWhile (isChecked s day) = accounts
  induction accounts with
  | nil => rfl
  | cons account accounts ih =>
    rw [product_cons, product_cons, filter_append, filter_append, map_append, ih, map_map, filter_map, filter_map, map_map]
    congr 2
    exact filter_congr fun row _ => isDue_switch hf account row

lemma after_switched (s : Store) (day : Date) (w : World) :
    after (switched f s) day w (attempted (switched f s) day) = after s day w (attempted s day) := by
  have hatt : ∀ p, attempt (switched f s) day (Prod.map id f p) = attempt s day p := by
    rintro ⟨account, row⟩
    rw [attempt, attempt, digestOf_switched]
    simp only [Prod.map_apply, id_eq, message_switch hf]
  rw [attempted_switched hf, after, after, foldl_map]
  simp only [hatt]

lemma outcome_switched (s : Store) (day : Date) : outcome (switched f s) day = outcome s day := by
  rw [outcome, outcome, digestAlerts_switched hf, isEmpty_map, activeAccounts_switched, check_switched]

end

/-- **Disabled alerts are told.** Whether alerts are enabled makes no difference to a run. So no disabled one is told
exactly if none of them is due for an account up to the first one that cannot be worked out. -/
theorem disabled_alerts_told {service : Service} (hday : service.world.now.date.before 1 = .ok day)
    (hs : Legible service.store) :
    (∀ f, Switches f → Handler.exec sendDigests { service with store := switched f service.store } =
      ((Handler.exec sendDigests service).1, { (Handler.exec sendDigests service).2 with
        store := switched f service.store })) ∧
    Handler.exec sendDigests service = (outcome service.store day, { service with
      world := after service.store day service.world (attempted service.store day) }) ∧
    ((∀ p ∈ attempted service.store day, (cell p.2 "is_enabled").truthy = true) ↔
      ∀ alert ∈ service.store.rows .alertConfigs, (cell alert "is_enabled").truthy = false →
        ∀ account ∈ (activeAccounts service.store).takeWhile (isChecked service.store day),
          isDue (account, alert) = false) := by
  have hrun := exec_sendDigests hday hs
  refine ⟨fun f hf => ?_, hrun, ?_⟩
  · have hday' : ({ service with store := switched f service.store } : Service).world.now.date.before 1 = .ok day := hday
    rw [exec_sendDigests hday' (legible_switched hf hs), hrun, outcome_switched hf, after_switched hf]
  · constructor
    · intro h alert hale hoff account hacc
      by_contra hdue
      have hon := h (account, alert) (mem_filter.mpr ⟨mem_product.mpr ⟨hacc, hale⟩, by simpa using hdue⟩)
      rw [hoff] at hon
      cases hon
    · rintro h ⟨account, alert⟩ hp
      obtain ⟨hmem, hdue⟩ := mem_filter.mp hp
      obtain ⟨hacc, hale⟩ := mem_product.mp hmem
      grind

def switchedOff : Service where
  world := Api.silentWorld
  store := [accountEntry "1" "a", alertEntry "a" false]

theorem disabled_alerts_told_of_other :
    (attempted twoOwners.store ⟨2026, 1, 14⟩).all (fun p => (cell p.2 "is_enabled").truthy) = true :=
  all_eq_true.mpr ((@disabled_alerts_told ⟨2026, 1, 14⟩ twoOwners (Result.eq_ok_of_toOption (by decide))
    (legible_of_no_mail (by decide) (by decide))).2.2.mpr (by decide))

theorem disabled_alert_told : (attempted switchedOff.store ⟨2026, 1, 14⟩).map (fun p => (cell p.2 "is_enabled").truthy) =
    [false] ∧ (Handler.exec sendDigests switchedOff).2.world.web.map (·.url.text?) = [some "https://hooks.slack.com/a"] := by
  decide +kernel

end Task

end CloudSpend
