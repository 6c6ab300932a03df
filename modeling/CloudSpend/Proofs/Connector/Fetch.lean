import CloudSpend.Connector.All
import CloudSpend.Proofs.Outside.Run

/-! # Fetching costs -/

namespace CloudSpend

def IsCount (v : Value) : Prop := ∃ n : Nat, v = .int n

def HasCount (key : String) (v : Value) : Prop := ∃ n : Nat, v.getD key (.int 0) = .ok (.int n)

namespace Run

variable {α β : Type} {P : β → Prop}

def Gives (P : α → Prop) (x : Run α) : Prop := ∀ w w' a, exec x w = (.ok a, w') → P a

namespace Gives

lemma pure {b : β} (h : P b) : Gives P (pure b) := by
  rintro w w' a ha
  cases ha
  exact h

variable {x : Run α} {f : α → Run β}

lemma bind (hf : ∀ a, Gives P (f a)) : Gives P (x >>= f) := by
  rintro w w' b hb
  obtain ⟨a, w1, -, hb⟩ := exec_bind_eq_ok.mp hb
  exact hf a _ _ _ hb

lemma bind_of {Q : α → Prop} (hx : Gives Q x) (hf : ∀ a, Q a → Gives P (f a)) : Gives P (x >>= f) := by
  rintro w w' b hb
  obtain ⟨a, w1, ha, hb⟩ := exec_bind_eq_ok.mp hb
  exact hf a (hx _ _ _ ha) _ _ _ hb

lemma result {r : Result β} (h : ∀ b, r = .ok b → P b) : Gives P (liftM r) := by
  rintro w w' b hb
  exact h b (Prod.mk.inj hb).1

lemma recover {x : Run β} {handle : Fault → Run β} (hx : Gives P x) (hhan : ∀ e, Gives P (handle e)) :
    Gives P (recover x handle) := by
  rintro w w' b hb
  rw [exec_recover] at hb
  rcases hrun : exec x w with ⟨e | a, w1⟩
  · rw [hrun] at hb
    exact hhan e _ _ _ hb
  · rw [hrun] at hb
    cases hb
    exact hx _ _ _ hrun

end Gives

end Run

open Run

namespace Source

lemma CostReport.gives_ingest (c : CostReport) (year month : Value) :
    Gives (HasCount "total_rows") (c.ingest year month) := by
  refine .bind fun all => ?_
  dsimp only
  split
  · exact .bind fun _ => .bind fun _ => .bind fun _ => .pure ⟨_, rfl⟩
  · exact .bind fun _ => .bind fun _ => .pure ⟨_, rfl⟩

lemma BigQuery.gives_ingest (b : BigQuery) (start stop : Value) :
    Gives (HasCount "rows_ingested") (b.ingest start stop) :=
  .bind fun _ => .bind fun _ => .bind fun _ => .bind fun _ => .pure ⟨_, rfl⟩

lemma BlobStorage.gives_ingest (b : BlobStorage) (start stop names : Value) :
    Gives (HasCount "rows_ingested") (b.ingest start stop names) :=
  .bind fun _ => .bind fun _ => .bind fun _ => .pure ⟨_, rfl⟩

end Source

namespace Connector

def Counts (k : Connector) : Prop :=
  ∀ config start stop output, Gives (fun outcome => IsCount outcome.rows) (k.ingest config start stop output)

variable {key : String} {validate : Value → Run Validation}

lemma counts_standard {fetch : Value → Value → Value → Run Value}
    {lines : Value → Date → Value → Result (List Line)} : (standard key validate fetch lines).Counts := by
  intro config start stop output
  refine .recover ?_ fun e => .pure ⟨0, rfl⟩
  refine .bind fun raw => .bind fun today => .bind fun ls => ?_
  split
  · exact .pure ⟨0, rfl⟩
  · exact .bind fun _ => .bind fun _ => .bind fun _ => .pure ⟨ls.length, rfl⟩

lemma counts_exporting {name countKey : String} {ingest : Value → Value → Value → Run Value}
    (h : ∀ config start stop, Gives (HasCount countKey) (ingest config start stop)) :
    (exporting key name validate ingest countKey).Counts := by
  intro config start stop output
  refine .recover ?_ fun e => .pure ⟨0, rfl⟩
  refine .bind fun _ => (h config start stop).bind_of ?_
  rintro v ⟨n, hn⟩
  rw [hn]
  refine .bind_of (.result fun rows hrows => ?_) fun rows hrows => .pure hrows
  exact ⟨n, (Except.ok.inj hrows).symm⟩

lemma counts_aws : aws.Counts := counts_exporting fun _ _ _ =>
  .bind fun _ => Source.CostReport.gives_ingest _ _ _

lemma counts_azure : azure.Counts := counts_exporting fun _ _ _ =>
  .bind fun _ => .bind fun _ => .bind fun _ => Source.BlobStorage.gives_ingest _ _ _ _

lemma counts_gcp : gcp.Counts := counts_exporting fun _ _ _ =>
  .bind fun _ => .bind fun _ => .bind fun _ => Source.BigQuery.gives_ingest _ _ _

lemma counts_kubernetes : kubernetes.Counts := fun _ _ _ _ => .pure ⟨0, rfl⟩

lemma counts_announced : (announced key).Counts := fun _ _ _ _ => .pure ⟨0, rfl⟩

lemma counts_custom : custom.Counts := fun _ _ _ _ =>
  .bind fun _ => .bind fun _ => .bind fun _ => .bind fun _ => .bind fun _ => .bind fun _ =>
    .bind fun _ => .pure ⟨_, rfl⟩

end Connector

end CloudSpend

namespace CloudSpend.Connector

open Run

/-! ### Fetches -/

instance (url : String) (headers : Value) (params : Option Value) : Quiet (getJson url headers params) := quiet_sendJson _

instance (t : Teller) (config : Value) (path : String) (params : Result (Option Value)) :
    Quiet (t.ask config path params) := leaves_bind

instance (config : Value) : Quiet (Oracle.signer config) := by
  refine leaves_get.bind fun w => ?_
  dsimp only
  infer_instance

instance (config : Value) (query : String) (timeout : Nat) : Quiet (NewRelic.ask config query timeout) := leaves_bind

instance (config : Value) : Quiet (Snowflake.connect config) := leaves_bind

instance (sql : String) (params : List Value) : Quiet (Snowflake.execute sql params) := quiet_noteSnowflake _

instance : Quiet Snowflake.close := leaves_bind

instance (config org : Value) (path : String) (timeout : Nat) : Quiet (PlanetScale.ask config org path timeout) :=
  leaves_bind

instance (config org : Value) (path : String) : Quiet (GitHub.ask config org path) := leaves_bind

instance (config : Value) (path : String) (params : Result (Option Value)) (timeout : Nat) :
    Quiet (Twilio.ask config path params timeout) := leaves_bind

def IsKey (key : String) : Prop := '/' ∉ key.toList ∧ key ∉ ["", ".", ".."]

instance (key : String) : Decidable (IsKey key) := inferInstanceAs (Decidable (_ ∧ _))

theorem forall_mem_all {P : Connector → Prop} (haws : P aws) (hazu : P azure) (hgcp : P gcp)
    (hkub : P kubernetes)
    (hsta : ∀ {key validate fetch lines}, IsKey key ∧ key ∉ ["aws", "gcp", "azure", "custom"] →
      (∀ config start stop, Quiet (fetch config start stop)) → P (standard key validate fetch lines))
    (hclo : P cloudflare) (hver : P vercel) (hcus : P custom) : ∀ k ∈ all, P k := by
  simp only [all, List.forall_mem_cons]
  refine ⟨haws, hazu, hgcp, hkub, ?_, ?_, ?_, ?_, ?_, ?_, ?_, ?_, ?_, ?_, ?_, ?_, ?_, ?_, ?_, ?_, ?_, ?_,
    ?_, ?_, hclo, hver, hcus, fun _ hk => absurd hk List.not_mem_nil⟩
  all_goals exact hsta (by decide) fun _ _ _ => leaves_bind

lemma counts_of_mem {k : Connector} (hk : k ∈ all) : k.Counts :=
  forall_mem_all counts_aws counts_azure counts_gcp counts_kubernetes (fun _ _ => counts_standard)
    counts_announced counts_announced counts_custom k hk

end CloudSpend.Connector
