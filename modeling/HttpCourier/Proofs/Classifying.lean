import HttpCourier.Fault
import Mathlib.Logic.Relation

/-!
# The classes of failures

Kinds of failure are special cases of each other (`FailureKind.Is`), and one failure leads to
another (`Failure.LedBy`). `Failure.Due` says in these terms which class a failure is due, the first
of the families that it belongs to. A failure of the exchange is reported with its due class and its
words, except for one that broke off an exchange that had begun: no class is given to it
(`Failure.reports_classified_iff`).
-/

namespace HttpCourier

/-! ## Families of kinds -/

namespace FailureKind

variable {k g family : FailureKind}

/-- The kind that a kind is a special case of. -/
def general? : FailureKind → Option FailureKind
  | timeout | network | proxy | unsupportedProtocol | protocol => some exchange
  | connectTimeout | readTimeout | writeTimeout | poolTimeout => some timeout
  | connect | read | write | close => some network
  | remoteProtocol | localProtocol => some protocol
  | connection | timedOut | notFound | fileExists | isDirectory | notDirectory | permission
  | blocking | childProcess | interrupted | processLookup | tls => some system
  | connectionAborted | connectionRefused | connectionReset | brokenPipe => some connection
  | tlsCertificate => some tls
  | _ => none

/-- A kind is of a family: it is the one that the family is named for, or a special case of one of
it. -/
inductive Is : FailureKind → FailureKind → Prop where
  | self (k : FailureKind) : Is k k
  | special {k g family : FailureKind} : k.general? = some g → g.Is family → k.Is family

/-- A test that all special cases of what passes it pass, too, is passed by a whole family. -/
theorem Is.passes {p : FailureKind → Bool}
    (hp : ∀ k g, general? k = some g → p g = true → p k = true) (h : k.Is family)
    (hfamily : p family = true) : p k = true := by
  induction h with
  | self => exact hfamily
  | special hg _ ih => exact hp _ _ hg (ih hfamily)

/-- The test for failures of the proxy is passed by that family. -/
theorem isProxy_iff : k.isProxy = true ↔ k.Is .proxy := by
  constructor
  · intro h
    obtain rfl : k = proxy := by simpa [isProxy] using h
    exact .self _
  · exact fun h => h.passes (p := isProxy) (fun k g hg => by cases k <;> cases hg <;> decide) rfl

/-- The test for timeouts is passed by those of an exchange and those of the system. -/
theorem isTimeout_iff : k.isTimeout = true ↔ k.Is .timeout ∨ k.Is .timedOut := by
  constructor
  · intro h
    cases k with
    | timeout => exact .inl (.self _)
    | connectTimeout | readTimeout | writeTimeout | poolTimeout =>
      exact .inl (.special rfl (.self _))
    | timedOut => exact .inr (.self _)
    | _ => cases h
  · have hspecial : ∀ k g, general? k = some g → isTimeout g = true → isTimeout k = true :=
      fun k g hg => by cases k <;> cases hg <;> decide
    exact fun h => h.elim (·.passes hspecial rfl) (·.passes hspecial rfl)

/-- The test for the secure layer is passed by that family. -/
theorem isTls_iff : k.isTls = true ↔ k.Is .tls := by
  constructor
  · intro h
    cases k with
    | tls => exact .self _
    | tlsCertificate => exact .special rfl (.self _)
    | _ => cases h
  · exact fun h => h.passes (p := isTls) (fun k g hg => by cases k <;> cases hg <;> decide) rfl

/-- The test for connections is passed by those that could not be made and by the system's
family. -/
theorem isConnection_iff : k.isConnection = true ↔ k.Is .connect ∨ k.Is .connection := by
  constructor
  · intro h
    cases k with
    | connect => exact .inl (.self _)
    | connection => exact .inr (.self _)
    | connectionAborted | connectionRefused | connectionReset | brokenPipe =>
      exact .inr (.special rfl (.self _))
    | _ => cases h
  · have hspecial : ∀ k g, general? k = some g → isConnection g = true → isConnection k = true :=
      fun k g hg => by cases k <;> cases hg <;> decide
    exact fun h => h.elim (·.passes hspecial rfl) (·.passes hspecial rfl)

/-- The kinds that end an exchange after it began have no special cases. -/
theorem Is.eq_of_late (h : k.Is family) (hfamily : family ∈ [read, write, close]) : k = family := by
  have hspecial : ∀ k g, general? k = some g → (g == family) = true → (k == family) = true := by
    intro k g hg
    simp only [List.mem_cons, List.not_mem_nil, or_false] at hfamily
    obtain rfl | rfl | rfl := hfamily
    · cases k <;> cases hg <;> decide
    · cases k <;> cases hg <;> decide
    · cases k <;> cases hg <;> decide
  exact eq_of_beq (h.passes (p := (· == family)) hspecial (beq_self_eq_true family))

/-- The failures that are classified are those of the two large families. -/
theorem isTransport_of_is (h : k.Is .exchange ∨ k.Is .system) : k.isTransport = true := by
  have hspecial : ∀ k g, general? k = some g → isTransport g = true → isTransport k = true :=
    fun k g hg => by cases k <;> cases hg <;> decide
  exact h.elim (·.passes hspecial rfl) (·.passes hspecial rfl)

end FailureKind

namespace Failure

variable {f g : Failure}

/-! ## What led to a failure -/

/-- What led to a failure: its cause, or the context in which it arose when it has no cause. -/
inductive LedBy : Failure → Failure → Prop where
  | cause {kind : FailureKind} {text : String} {f : Failure} {context : Option Failure} :
    LedBy (mk kind text (some f) context) f
  | context {kind : FailureKind} {text : String} {f : Failure} :
    LedBy (mk kind text none (some f)) f

/-- A failure, or one of those that led to it one after the other, is a failure of the secure
layer. -/
def MetTls (f : Failure) : Prop := ∃ g, Relation.ReflTransGen LedBy f g ∧ g.kind.Is .tls

/-- A failure with a cause was led to by the cause alone. -/
theorem ledBy_cause_iff {kind : FailureKind} {text : String} {context : Option Failure} :
    (mk kind text (some f) context).LedBy g ↔ g = f := by
  constructor
  · rintro (_ | _)
    rfl
  · rintro rfl
    exact .cause

/-- A failure without a cause was led to by its context. -/
theorem ledBy_context_iff {kind : FailureKind} {text : String} :
    (mk kind text none (some f)).LedBy g ↔ g = f := by
  constructor
  · rintro (_ | _)
    rfl
  · rintro rfl
    exact .context

/-- A chain passes through the failure that led to the first one, if it goes on at all. -/
theorem exists_chain_iff {next : Failure} {q : Failure → Prop} (h : ∀ g, f.LedBy g ↔ g = next) :
    (∃ g, Relation.ReflTransGen LedBy f g ∧ q g) ↔
      q f ∨ ∃ g, Relation.ReflTransGen LedBy next g ∧ q g := by
  constructor
  · rintro ⟨g, hchain, hg⟩
    rcases hchain.cases_head with rfl | ⟨first, hfirst, hchain⟩
    · exact .inl hg
    · obtain rfl := (h first).1 hfirst
      exact .inr ⟨g, hchain, hg⟩
  · rintro (hf | ⟨g, hchain, hg⟩)
    · exact ⟨f, .refl, hf⟩
    · exact ⟨g, .head ((h next).2 rfl) hchain, hg⟩

/-- The kinds along a chain are those of the failure and of what led to it. -/
theorem any_kinds_iff {p : FailureKind → Bool} :
    f.kinds.any p = true ↔ ∃ g, Relation.ReflTransGen LedBy f g ∧ p g.kind = true := by
  fun_induction kinds f with
  | case1 kind text cause context ih =>
    rw [List.any_cons, Bool.or_eq_true, ih, exists_chain_iff fun _ => ledBy_cause_iff]
    rfl
  | case2 kind text context ih =>
    rw [List.any_cons, Bool.or_eq_true, ih, exists_chain_iff fun _ => ledBy_context_iff]
    rfl
  | case3 kind text =>
    rw [List.any_cons, List.any_nil, Bool.or_false]
    constructor
    · exact fun hp => ⟨_, .refl, hp⟩
    · rintro ⟨g, hchain, hp⟩
      rcases hchain.cases_head with rfl | ⟨first, hfirst, -⟩
      · exact hp
      · cases hfirst

/-- The search along what led to a failure finds the secure layer wherever it stands. -/
theorem any_isTls_iff : f.kinds.any FailureKind.isTls = true ↔ f.MetTls := by
  simp only [any_kinds_iff, FailureKind.isTls_iff, MetTls]

/-! ## The class that is due -/

/-- The class that a failure is due: that of the first family it belongs to. A failure of the secure
layer counts wherever it stands on the way to the failure. -/
inductive Due (f : Failure) : ExchangeClass → Prop where
  | proxy : f.kind.Is .proxy → Due f .proxyError
  | timeout : ¬ f.kind.Is .proxy → f.kind.Is .timeout ∨ f.kind.Is .timedOut → Due f .networkTimeout
  | tls : ¬ f.kind.Is .proxy → ¬ (f.kind.Is .timeout ∨ f.kind.Is .timedOut) → f.MetTls →
    Due f .sslError
  | connection : ¬ f.kind.Is .proxy → ¬ (f.kind.Is .timeout ∨ f.kind.Is .timedOut) → ¬ f.MetTls →
    (∃ family ∈ [FailureKind.connect, .read, .write, .close, .connection], f.kind.Is family) →
    Due f .connectionError
  | unknown : ¬ f.kind.Is .proxy → ¬ (f.kind.Is .timeout ∨ f.kind.Is .timedOut) → ¬ f.MetTls →
    (¬ ∃ family ∈ [FailureKind.connect, .read, .write, .close, .connection], f.kind.Is family) →
    Due f .unknown

/-- A failure that broke off an exchange that had begun, and for which the secure layer has no
reason. -/
def BrokeOff (f : Failure) : Prop :=
  (∃ family ∈ [FailureKind.read, .write, .close], f.kind.Is family) ∧ ¬ f.MetTls

/-- The class that is given tells the families apart in their order, with those of reading, writing
and closing left out. -/
theorem exchangeClass_cases :
    f.kind.Is .proxy ∧ f.exchangeClass = .proxyError ∨
      ¬ f.kind.Is .proxy ∧ ((f.kind.Is .timeout ∨ f.kind.Is .timedOut) ∧
          f.exchangeClass = .networkTimeout ∨
        ¬ (f.kind.Is .timeout ∨ f.kind.Is .timedOut) ∧ (f.MetTls ∧ f.exchangeClass = .sslError ∨
          ¬ f.MetTls ∧ ((f.kind.Is .connect ∨ f.kind.Is .connection) ∧
              f.exchangeClass = .connectionError ∨
            ¬ (f.kind.Is .connect ∨ f.kind.Is .connection) ∧ f.exchangeClass = .unknown))) := by
  simp only [← FailureKind.isProxy_iff, ← FailureKind.isTimeout_iff, ← any_isTls_iff,
    ← FailureKind.isConnection_iff, exchangeClass]
  split
  case isTrue hp => exact .inl ⟨hp, rfl⟩
  case isFalse hp =>
    refine .inr ⟨hp, ?_⟩
    split
    case isTrue ht => exact .inl ⟨ht, rfl⟩
    case isFalse ht =>
      refine .inr ⟨ht, ?_⟩
      split
      case isTrue hs => exact .inl ⟨hs, rfl⟩
      case isFalse hs =>
        refine .inr ⟨hs, ?_⟩
        split
        case isTrue hc => exact .inl ⟨hc, rfl⟩
        case isFalse hc => exact .inr ⟨hc, rfl⟩

/-- A fault that reports a failure with its due class, and with its text, or with the name of its
kind when it has none. -/
def Reports (f : Failure) (fault : Fault) : Prop :=
  ∃ c message, fault = .transport c message ∧ f.Due c ∧
    (f.text ≠ "" → message = f.text) ∧ (f.text = "" → message = f.kind.label)

/-- A reported fault says one class and one text. -/
theorem transport_inj {c c' : ExchangeClass} {message message' : String}
    (h : Fault.transport c message = .transport c' message') : c = c' ∧ message = message' := by
  cases h
  exact ⟨rfl, rfl⟩

/-- The words for a failure are its text, or the name of its kind when it has none. -/
theorem words_eq : (f.text ≠ "" → f.words = f.text) ∧ (f.text = "" → f.words = f.kind.label) := by
  constructor
  · intro h
    rw [words, if_neg (mt String.isEmpty_iff.1 h)]
  · intro h
    rw [words, if_pos (String.isEmpty_iff.2 h)]

/-- The words of a failure are always reported, so it depends on the class whether a report is
due. -/
theorem reports_transport_iff :
    f.Reports (.transport f.exchangeClass f.words) ↔ f.Due f.exchangeClass := by
  constructor
  · rintro ⟨c, message, hfault, hdue, -⟩
    rwa [(transport_inj hfault).1]
  · exact fun h => ⟨_, _, rfl, h, words_eq⟩

/-- The class that is given is due, unless the failure broke off an exchange. -/
theorem due_exchangeClass (h : ¬ f.BrokeOff) : f.Due f.exchangeClass := by
  obtain ⟨hp, hc⟩ | ⟨hp, ⟨ht, hc⟩ | ⟨ht, ⟨hs, hc⟩ | ⟨hs, ⟨hl, hc⟩ | ⟨hl, hc⟩⟩⟩⟩ := f.exchangeClass_cases
  · exact hc ▸ .proxy hp
  · exact hc ▸ .timeout hp ht
  · exact hc ▸ .tls hp ht hs
  · rw [hc]
    refine .connection hp ht hs ?_
    rcases hl with hl | hl
    · exact ⟨_, by simp, hl⟩
    · exact ⟨_, by simp, hl⟩
  · rw [hc]
    refine .unknown hp ht hs ?_
    rintro ⟨family, hfamily, hk⟩
    simp only [List.mem_cons, List.not_mem_nil, or_false] at hfamily
    obtain rfl | rfl | rfl | rfl | rfl := hfamily
    · exact hl (.inl hk)
    · exact h ⟨⟨_, by simp, hk⟩, hs⟩
    · exact h ⟨⟨_, by simp, hk⟩, hs⟩
    · exact h ⟨⟨_, by simp, hk⟩, hs⟩
    · exact hl (.inr hk)

/-- A failure that broke off an exchange is given no class, though one is due. -/
theorem BrokeOff.not_due (h : f.BrokeOff) : ¬ f.Due f.exchangeClass := by
  obtain ⟨⟨family, hfamily, hk⟩, hs⟩ := h
  have hclass : f.exchangeClass = .unknown := by
    have hkind := hk.eq_of_late hfamily
    have htls : f.kinds.any FailureKind.isTls = false :=
      Bool.eq_false_iff.2 (mt any_isTls_iff.1 hs)
    rw [exchangeClass, hkind, htls]
    simp only [List.mem_cons, List.not_mem_nil, or_false] at hfamily
    obtain rfl | rfl | rfl := hfamily
    · rfl
    · rfl
    · rfl
  rw [hclass]
  rintro (_ | _ | _ | _ | ⟨-, -, -, hnone⟩)
  refine hnone ⟨family, List.mem_cons_of_mem _ ?_, hk⟩
  exact List.mem_append_left [FailureKind.connection] hfamily

/-- A failure of an exchange or of the system is reported with the class given to it. -/
theorem classified_eq (h : f.kind.Is .exchange ∨ f.kind.Is .system) :
    (Fault.failure f).classified = .transport f.exchangeClass f.words := by
  have hfailure : (Fault.failure f).asFailure? = some f := if_pos (FailureKind.isTransport_of_is h)
  rw [Fault.classified, hfailure]

/-- A failure of the exchange is reported with its due class and its words exactly when it did not
break off an exchange that had begun, or the secure layer was the reason. -/
theorem reports_classified_iff (h : f.kind.Is .exchange ∨ f.kind.Is .system) :
    f.Reports (Fault.failure f).classified ↔ ¬ f.BrokeOff := by
  rw [classified_eq h, reports_transport_iff]
  exact ⟨fun hdue hb => hb.not_due hdue, due_exchangeClass⟩

/-- A refused connection in which a certificate is found to be bad, two steps back. -/
def distrusted : Failure :=
  mk .connect "" (some (mk .runtime "handshake" none (some (plain .tlsCertificate "expired")))) none

/-- A bad certificate two steps back makes a refused connection a failure of the secure layer. -/
theorem reports_classified_iff_distrusted :
    (distrusted.kind.Is .exchange ∨ distrusted.kind.Is .system) ∧
      distrusted.Reports (Fault.failure distrusted).classified ∧
      (Fault.failure distrusted).classified = .transport .sslError "ConnectError" := by
  have hkind : distrusted.kind.Is .exchange ∨ distrusted.kind.Is .system :=
    .inl (.special rfl (.special rfl (.self _)))
  have htls : distrusted.MetTls :=
    ⟨plain .tlsCertificate "expired", .head .cause (.head .context .refl), .special rfl (.self _)⟩
  exact ⟨hkind, (reports_classified_iff hkind).2 fun h => h.2 htls, by with_unfolding_all rfl⟩

/-- A connection that is lost while the answer is read is reported without a class. -/
theorem lostConnection_not_classified :
    ¬ ∀ f : Failure, f.kind.Is .exchange ∨ f.kind.Is .system →
      f.Reports (Fault.failure f).classified := by
  intro h
  have hkind : (plain .read "connection reset").kind.Is .exchange :=
    .special rfl (.special rfl (.self _))
  have hbroke : (plain .read "connection reset").BrokeOff := by
    refine ⟨⟨.read, List.mem_cons_self, .self _⟩, ?_⟩
    rw [← any_isTls_iff]
    decide
  have hreport := h _ (.inl hkind)
  rw [classified_eq (.inl hkind), reports_transport_iff] at hreport
  exact hbroke.not_due hreport

end Failure

end HttpCourier
