import CloudSpend.Proofs.Aws.CostLines
import CloudSpend.Proofs.Numeral.Rounding

/-! # Pages of the cost explorer -/

namespace CloudSpend.Aws.CostExplorer

open List Run

def costCall (args : Row) : AwsCall := .method "ce" "get_cost_and_usage" "us-east-1" false args

def isCostCall : AwsCall → Bool
  | .session _ => false
  | .method service name .. => service == "ce" && name == "get_cost_and_usage"

def costCalls (w : World) : List AwsCall := w.aws.filter isCostCall

def tokenOf (page : Value) : Value := (page.get "NextPageToken").toOption.getD .null

structure Plays (script : List Value) (o : Outside) : Prop where
  answers : ∀ asked args page, script[(asked.filter isCostCall).length]? = some page →
    o.aws asked (costCall args) = .ok page
  enough : script.length ≤ o.pages

def requests (args : Row) (tokens : List Value) : List AwsCall :=
  tokens.map fun token => costCall (if token.truthy then args ++ [("NextPageToken", token)] else args)

variable {α : Type} {script pages rest : List Value} {page last token : Value} {args : Row}
  {read : Value → Result (List α)} {here : List α} {parts : List (List α)} {bound : Nat} {w : World}

lemma filter_requests (args : Row) (tokens : List Value) :
    (requests args tokens).filter isCostCall = requests args tokens := by
  refine filter_eq_self.mpr fun c hc => ?_
  obtain ⟨token, -, rfl⟩ := mem_map.mp hc
  rfl

lemma exec_walk_succ (hpla : Plays script w.outside) (hpage : script[(costCalls w).length]? = some page)
    (hread : read page = .ok here) (htok : page.get "NextPageToken" = .ok (tokenOf page)) :
    exec (walk args read token (bound + 1)) w =
      exec (if (tokenOf page).truthy then do return here ++ (← walk args read (tokenOf page) bound) else return here)
        { w with aws := w.aws ++ requests args [token] } := by
  have hcall : exec (call "get_cost_and_usage" (if token.truthy then args ++ [("NextPageToken", token)] else args)) w =
      (.ok page, { w with aws := w.aws ++ requests args [token] }) :=
    Prod.ext (hpla.answers _ _ page hpage) rfl
  rw [walk, exec_bind_ok hcall, hread, htok]
  rfl

theorem exec_walk (hpla : Plays script w.outside)
    (hscr : script.drop (costCalls w).length = pages ++ last :: rest)
    (hmore : ∀ page ∈ pages, (tokenOf page).truthy = true) (hlast : (tokenOf last).truthy = false)
    (htok : ∀ page ∈ pages ++ [last], page.get "NextPageToken" = .ok (tokenOf page))
    (hread : (pages ++ [last]).mapM read = .ok parts) (hbou : pages.length < bound) :
    exec (walk args read token bound) w =
      (.ok parts.flatten, { w with aws := w.aws ++ requests args (token :: pages.map tokenOf) }) := by
  obtain ⟨bound, rfl⟩ := Nat.exists_eq_add_one_of_ne_zero (Nat.ne_zero_of_lt hbou)
  induction pages generalizing w token bound parts with
  | nil =>
    have hpage : script[(costCalls w).length]? = some last := by rw [← head?_drop, hscr]; rfl
    rw [nil_append, mapM_cons] at hread
    obtain ⟨here, hhere, hread⟩ := Result.of_bind_ok hread
    cases hread
    rw [exec_walk_succ hpla hpage hhere (htok last (by simp)), if_neg (by simp [hlast])]
    simp
  | cons page pages ih =>
    have hpage : script[(costCalls w).length]? = some page := by rw [← head?_drop, hscr]; rfl
    rw [cons_append, mapM_cons] at hread
    obtain ⟨here, hhere, hread⟩ := Result.of_bind_ok hread
    obtain ⟨others, hoth, hread⟩ := Result.of_bind_ok hread
    cases hread
    obtain ⟨bound, rfl⟩ := Nat.exists_eq_add_one_of_ne_zero (n := bound) (by rw [length_cons] at hbou; omega)
    have hdrop : script.drop (costCalls { w with aws := w.aws ++ requests args [token] }).length =
        pages ++ last :: rest := by
      rw [costCalls, filter_append, filter_requests, length_append]
      change script.drop ((costCalls w).length + 1) = _
      rw [← tail_drop, hscr]
      rfl
    rw [exec_walk_succ hpla hpage hhere (htok page (by simp)), if_pos (hmore page mem_cons_self),
      exec_bind_ok (ih (w := { w with aws := w.aws ++ requests args [token] }) hpla hdrop (fun p hp => hmore p (mem_cons_of_mem _ hp))
        (fun p hp => htok p (mem_cons_of_mem _ hp)) hoth bound (by rw [length_cons] at hbou; omega))]
    simp [requests]

/-! ### What pages tell -/

structure Charge where
  start : String
  service : String
  amount : Float
  unit : String

namespace Charge

def isKept (c : Charge) : Bool := !(c.amount < 0.01)

def line (c : Charge) : Value :=
  .object [("date", .text c.start), ("service", .text c.service),
    ("amount", .float ((Numeral.roundTo? c.amount 4).getD c.amount)), ("currency", .text c.unit)]

end Charge

structure IsGroup (start : String) (group : Value) (c : Charge) : Prop where
  start : c.start = start
  service : ∃ others, group.field "Keys" = .ok (.list (.text c.service :: others))
  cost : ∃ metrics metric amount, group.field "Metrics" = .ok metrics ∧ metrics.field "UnblendedCost" = .ok metric ∧
    metric.field "Amount" = .ok amount ∧ amount.toFloat = .ok c.amount ∧ metric.field "Unit" = .ok (.text c.unit)

def IsPeriod (period : Value) (cs : List Charge) : Prop :=
  ∃ span start groups, period.field "TimePeriod" = .ok span ∧ span.field "Start" = .ok (.text start) ∧
    period.getD "Groups" (.list []) = .ok (.list groups) ∧ Forall₂ (IsGroup start) groups cs

def IsPage (page : Value) (cs : List Charge) : Prop :=
  ∃ periods parts, page.getD "ResultsByTime" (.list []) = .ok (.list periods) ∧ Forall₂ IsPeriod periods parts ∧
    cs = parts.flatten

variable {c : Charge} {cs : List Charge} {group period : Value} {start : String}

def IsRead (g : Group × Value) (c : Charge) : Prop :=
  g.1.start = .text c.start ∧ g.1.key = .text c.service ∧ g.1.amount = .float c.amount ∧ g.2 = .text c.unit

lemma exists_readService (h : IsGroup start group c) : ∃ g, readService (.text start) group = .ok g ∧ IsRead g c := by
  obtain ⟨rfl, ⟨others, hkeys⟩, metrics, metric, amount, hmetrics, hmetric, hamount, hfloat, hunit⟩ := h
  refine ⟨(⟨.text c.start, .text c.service, .float c.amount, metric⟩, .text c.unit), ?_, rfl, rfl, rfl, rfl⟩
  have hread : readMetric group = .ok (.float c.amount, metric) := by
    simp only [readMetric, hmetrics, hmetric, hamount, hfloat, bind, Except.bind]
    rfl
  have hitem : (Value.list (.text c.service :: others)).item 0 = .ok (.text c.service) := rfl
  simp only [readService, hkeys, hread, hitem, hunit, bind, Except.bind]
  rfl

lemma exists_mapM_of_forall₂ {α β γ : Type} {f : α → Result β} {R : α → γ → Prop} {S : β → γ → Prop}
    (hf : ∀ {a c}, R a c → ∃ b, f a = .ok b ∧ S b c) {as : List α} {cs : List γ} (h : Forall₂ R as cs) :
    ∃ bs, as.mapM f = .ok bs ∧ Forall₂ S bs cs := by
  induction h with
  | nil => exact ⟨[], rfl, .nil⟩
  | cons hac _ ih =>
    obtain ⟨b, hb, hbc⟩ := hf hac
    obtain ⟨bs, hbs, hall⟩ := ih
    exact ⟨b :: bs, by rw [mapM_cons, hb, hbs]; rfl, .cons hbc hall⟩

lemma exists_groups (h : IsPage page cs) : ∃ found, groups readService page = .ok found ∧ Forall₂ IsRead found cs := by
  obtain ⟨periods, parts, hperiods, hparts, rfl⟩ := h
  obtain ⟨found, hfound, hread⟩ := exists_mapM_of_forall₂ (f := fun p => do
    let start ← (← p.field "TimePeriod").field "Start"
    (← (← p.getD "Groups" (.list [])).items).mapM (readService start)) (S := Forall₂ IsRead) (fun {p cs} hp => by
      obtain ⟨span, start, groups, hspan, hstart, hgroups, hall⟩ := hp
      obtain ⟨gs, hgs, hread⟩ := exists_mapM_of_forall₂ (R := IsGroup start) exists_readService hall
      refine ⟨gs, ?_, hread⟩
      rw [hspan, hgroups]
      simp only [bind, Except.bind, hstart]
      exact hgs) hparts
  refine ⟨found.flatten, ?_, ?_⟩
  · rw [groups, hperiods]
    exact congrArg (· >>= fun found => .ok found.flatten) hfound
  · exact rel_flatten hread

lemma serviceLines_eq (h : IsPage page cs) : serviceLines page = .ok ((cs.filter Charge.isKept).map Charge.line) := by
  obtain ⟨found, hfound, hread⟩ := exists_groups h
  have hlines : serviceLines page = (found.filter fun g => !g.1.isDropped).mapM serviceLine :=
    reader_eq (fun _ => rfl) cost?_of_readService hfound
  rw [hlines]
  clear hlines hfound h
  induction hread with
  | nil => rfl
  | @cons g c _ _ hgc _ ih =>
    obtain ⟨hstart, hkey, hamount, hunit⟩ := hgc
    have hkept : (!g.1.isDropped) = c.isKept := by simp only [Group.isDropped, Group.cost?, hamount]; rfl
    obtain ⟨y, hy⟩ := Numeral.exists_roundTo?_eq c.amount 4
    have hline : serviceLine g = .ok c.line := by
      simp only [serviceLine, hstart, hkey, hamount, hunit, Value.round, hy, Charge.line]
      rfl
    rw [filter_cons, filter_cons, hkept]
    split
    · rw [mapM_cons, hline, ih]
      rfl
    · exact ih

lemma token_of_isPage (h : IsPage page cs) : page.get "NextPageToken" = .ok (tokenOf page) := by
  obtain ⟨_, _, hperiods, -⟩ := h
  cases page <;> first | rfl | cases hperiods

lemma costCalls_concat (w : World) {c : AwsCall} (hc : isCostCall c = false) :
    costCalls { w with aws := w.aws ++ [c] } = costCalls w := by
  simp [costCalls, hc]

lemma leaves_connect (a : Access) : Leaves (fun w => (w.outside, costCalls w)) (connect a) := by
  cases a with
  | usual region => exact leaves_pure _
  | role arn externalId region =>
    have hask : ∀ args, Leaves (fun w => (w.outside, costCalls w)) (aws "sts" "assume_role" region args) := fun _ =>
      leaves_get_set fun w => Prod.ext rfl (costCalls_concat w rfl)
    have hopen : ∀ args, Leaves (fun w => (w.outside, costCalls w)) (openSession args) :=
      fun _ => ⟨fun w => Prod.ext rfl (costCalls_concat w rfl)⟩
    refine @leaves_connectOnce _ _ _ ?_ fun _ => rfl
    infer_instance

structure Answers (w : World) (pages : List Value) (last : Value) (charges : List (List Charge)) : Prop where
  plays : ∃ script rest, Plays script w.outside ∧ script.drop (costCalls w).length = pages ++ last :: rest
  more : ∀ page ∈ pages, (tokenOf page).truthy = true
  ends : (tokenOf last).truthy = false
  told : Forall₂ IsPage (pages ++ [last]) charges

lemma Answers.congr {charges : List (List Charge)} {w' : World} (h : Answers w pages last charges)
    (houtside : w'.outside = w.outside) (hcalls : costCalls w' = costCalls w) : Answers w' pages last charges :=
  ⟨by rw [houtside, hcalls]; exact h.plays, h.more, h.ends, h.told⟩

def keptLines (charges : List (List Charge)) : List Value := (charges.flatten.filter Charge.isKept).map Charge.line

lemma exec_byService {charges : List (List Charge)} {a : Access} {p : Cost.Period Value} {granularity : Value} {w₁ : World}
    (h : Answers w pages last charges) (hargs : groupedArgs p granularity "DIMENSION" "SERVICE" = .ok args)
    (hcon : exec (connect a) w = (.ok (), w₁)) :
    exec (byService a p granularity) w =
      (.ok (keptLines charges), { w₁ with aws := w₁.aws ++ requests args (.null :: pages.map tokenOf) }) := by
  obtain ⟨⟨script, rest, hplays, hscript⟩, hmore, hends, htold⟩ := h
  have hread : (pages ++ [last]).mapM serviceLines =
      .ok (charges.map fun cs => (cs.filter Charge.isKept).map Charge.line) := by
    obtain ⟨lines, hlines, hall⟩ := exists_mapM_of_forall₂ (f := serviceLines)
      (S := fun lines cs => lines = (cs.filter Charge.isKept).map Charge.line)
      (fun h => ⟨_, serviceLines_eq h, rfl⟩) htold
    rw [← forall₂_map_right_iff, forall₂_eq_eq_eq] at hall
    rw [hlines, hall]
  have hkept : (charges.map fun cs => (cs.filter Charge.isKept).map Charge.line).flatten = keptLines charges := by
    simp [keptLines, filter_flatten, map_flatten, Function.comp_def]
  obtain ⟨hout, hcal⟩ := Prod.ext_iff.mp ((leaves_connect a).view_eq hcon)
  dsimp only at hout hcal
  have htok : ∀ page ∈ pages ++ [last], page.get "NextPageToken" = .ok (tokenOf page) := fun page hpage =>
    (exists_of_mem_of_forall₂ (Forall₂.flip (R := flip IsPage) htold) hpage).elim fun _ h => token_of_isPage h.2
  have hbou : pages.length < w.outside.pages := by
    have hlen := congrArg length hscript
    have heno := hplays.enough
    simp only [length_drop, length_append, length_cons] at hlen
    omega
  rw [byService, exec_bind_ok hcon, hargs, exec_bind_ok (exec_liftM _ _), exec_bind_ok (exec_get _),
    exec_walk (hout ▸ hplays) (hcal ▸ hscript) hmore hends htok hread (hout ▸ hbou), hkept]

/-- **Costs by service are complete.** Whichever way access was got, the charges on all pages up to the one without a
token are told, but those that are left out. The first request carries no token, and each of the others the one of
the page before. -/
theorem byService_reads_all (first stop : Date) (granularity : Value) {w : World} {pages : List Value} {last : Value}
    {charges : List (List Charge)} (hanswers : Answers w pages last charges) :
    ∃ args, groupedArgs ⟨.date first, .date stop⟩ granularity "DIMENSION" "SERVICE" = .ok args ∧
      ∀ a w₁, exec (connect a) w = (.ok (), w₁) →
        ∃ w', exec (byService a ⟨.date first, .date stop⟩ granularity) w =
            (.ok ((charges.flatten.filter Charge.isKept).map Charge.line), w') ∧
          costCalls w' = costCalls w ++ costCall args ::
            pages.map fun page => costCall (args ++ [("NextPageToken", tokenOf page)]) := by
  refine ⟨_, rfl, fun a w₁ hcon => ⟨_, exec_byService hanswers rfl hcon, ?_⟩⟩
  have hcal : costCalls w₁ = costCalls w := (Prod.ext_iff.mp ((leaves_connect a).view_eq hcon)).2
  rw [costCalls, filter_append, filter_requests]
  change costCalls w₁ ++ _ = _
  rw [hcal, requests, map_cons, map_map]
  congr 2
  exact map_congr_left fun page hpage => by simp [hanswers.more page hpage]

def costPage (token : Value) (day : String) (charges : List (String × String)) : Value :=
  .object [("NextPageToken", token), ("ResultsByTime", .list [.object
    [("TimePeriod", .object [("Start", .text day)]),
      ("Groups", .list (charges.map fun c => .object [("Keys", .list [.text c.1]),
        ("Metrics", .object [("UnblendedCost", .object [("Amount", .text c.2), ("Unit", "USD")])])]))]])]

lemma isPage_costPage (token : Value) (day : String) {charges : List (String × String)} {amounts : List Float}
    (h : Forall₂ (fun c x => (Value.text c.2).toFloat = .ok x) charges amounts) :
    IsPage (costPage token day charges) (zipWith (fun c x => ⟨day, c.1, x, "USD"⟩) charges amounts) := by
  refine ⟨_, [zipWith (fun c x => ⟨day, c.1, x, "USD"⟩) charges amounts], rfl, .cons ⟨_, day, _, rfl, rfl, rfl, ?_⟩ .nil,
    by simp⟩
  rw [forall₂_map_left_iff]
  induction h with
  | nil => exact .nil
  | cons hx _ ih => exact .cons ⟨rfl, ⟨[], rfl⟩, _, _, _, rfl, rfl, rfl, hx, rfl⟩ ih

def scriptWorld (w : World) (script : List Value) : World :=
  { w with outside := { w.outside with
      aws := fun asked c => .ok (if isCostCall c then script[(asked.filter isCostCall).length]?.getD .null else
        .object [("Account", "1"),
          ("Credentials", .object [("AccessKeyId", "k"), ("SecretAccessKey", "s"), ("SessionToken", "t")])])
      pages := script.length } }

lemma plays_scriptWorld (w : World) (script : List Value) : Plays script (scriptWorld w script).outside :=
  ⟨fun asked args page h => by simp [scriptWorld, isCostCall, costCall, h], le_rfl⟩

def fourPages : List Value :=
  [costPage "a" "2026-02-01" [("EC2", "12.5"), ("S3", "0")], costPage "b" "2026-02-02" [],
    costPage .null "2026-02-03" [("EC2", "3")], costPage .null "2026-02-04" [("EC2", "4")]]

theorem byService_reads_all_of_three : ∃ args w',
    exec (byService (.role "arn" "id" "eu-west-1") ⟨.date ⟨2026, 2, 1⟩, .date ⟨2026, 3, 1⟩⟩ "DAILY")
      (scriptWorld (Source.worldWith []) fourPages) =
        (.ok ([⟨"2026-02-01", "EC2", 12.5, "USD"⟩, ⟨"2026-02-03", "EC2", 3, "USD"⟩].map Charge.line), w') ∧
    costCalls w' = [args, args ++ [("NextPageToken", .text "a")], args ++ [("NextPageToken", .text "b")]].map costCall := by
  have hfloat : (Value.text "12.5").toFloat = .ok 12.5 ∧ (Value.text "0").toFloat = .ok 0 ∧ (Value.text "3").toFloat = .ok 3 :=
    ⟨Result.eq_ok_of_toOption (by decide +kernel), Result.eq_ok_of_toOption (by decide +kernel),
      Result.eq_ok_of_toOption (by decide +kernel)⟩
  have hanswers : Answers (scriptWorld (Source.worldWith []) fourPages) (fourPages.take 2) (costPage .null "2026-02-03" [("EC2", "3")])
      [[⟨"2026-02-01", "EC2", 12.5, "USD"⟩, ⟨"2026-02-01", "S3", 0, "USD"⟩], [], [⟨"2026-02-03", "EC2", 3, "USD"⟩]] :=
    ⟨⟨fourPages, _, plays_scriptWorld _ _, rfl⟩, all_eq_true.mp rfl, rfl,
      .cons (isPage_costPage _ _ (.cons hfloat.1 (.cons hfloat.2.1 .nil))) (.cons (isPage_costPage _ _ .nil)
        (.cons (isPage_costPage _ _ (.cons hfloat.2.2 .nil)) .nil))⟩
  obtain ⟨args, -, hrun⟩ := byService_reads_all ⟨2026, 2, 1⟩ ⟨2026, 3, 1⟩ "DAILY" hanswers
  obtain ⟨w', hw', hcal⟩ := hrun (.role "arn" "id" "eu-west-1") _ rfl
  refine ⟨args, w', hw'.trans ?_, hcal⟩
  have hkept : (0 : Float) < 0.01 ∧ ¬ (12.5 : Float) < 0.01 ∧ ¬ (3 : Float) < 0.01 := by decide +kernel
  simp [Charge.isKept, hkept]

end CloudSpend.Aws.CostExplorer
