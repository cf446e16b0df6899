import HttpCourier.Text.Quoted

/-!
# Failures of a connection

A `Failure` is what a connection, the operating system or a caller reports in place of an answer. It
may have a cause, and a context in which it arose. `Failure.kinds` is the chain of their kinds: the
cause where there is one, and the context otherwise. `Failure.exchangeClass` classifies a failure by
that chain.
-/

namespace HttpCourier

/-- How a failed exchange is classified. -/
inductive ExchangeClass where
  | networkTimeout
  | connectionError
  | sslError
  | proxyError
  | unknown
  deriving DecidableEq, Repr

/-- The name of a class. -/
def ExchangeClass.name : ExchangeClass → String
  | .networkTimeout => "NETWORK_TIMEOUT"
  | .connectionError => "CONNECTION_ERROR"
  | .sslError => "SSL_ERROR"
  | .proxyError => "PROXY_ERROR"
  | .unknown => "UNKNOWN"

/-- The class of a name. -/
def ExchangeClass.ofName? (s : String) : Option ExchangeClass :=
  [networkTimeout, connectionError, sslError, proxyError, unknown].find? fun c => c.name == s

/-- The kinds of failure. -/
inductive FailureKind where
  -- the exchange
  | exchange
  | timeout
  | connectTimeout
  | readTimeout
  | writeTimeout
  | poolTimeout
  | network
  | connect
  | read
  | write
  | close
  | proxy
  | unsupportedProtocol
  | protocol
  | remoteProtocol
  | localProtocol
  | tooManyRedirects
  | decoding
  | invalidUrl
  -- the system
  | system
  | connection
  | connectionAborted
  | connectionRefused
  | connectionReset
  | brokenPipe
  | timedOut
  | notFound
  | fileExists
  | isDirectory
  | notDirectory
  | permission
  | blocking
  | childProcess
  | interrupted
  | processLookup
  | tls
  | tlsCertificate
  -- callers
  | value
  | runtime
  | key
  | other
  -- what this library itself reports
  | classified (kind : ExchangeClass)
  | noStatus
  | configuration
  deriving DecidableEq, Repr

namespace FailureKind

/-- The name of a kind. -/
def label : FailureKind → String
  | exchange => "TransportError"
  | timeout => "TimeoutException"
  | connectTimeout => "ConnectTimeout"
  | readTimeout => "ReadTimeout"
  | writeTimeout => "WriteTimeout"
  | poolTimeout => "PoolTimeout"
  | network => "NetworkError"
  | connect => "ConnectError"
  | read => "ReadError"
  | write => "WriteError"
  | close => "CloseError"
  | proxy => "ProxyError"
  | unsupportedProtocol => "UnsupportedProtocol"
  | protocol => "ProtocolError"
  | remoteProtocol => "RemoteProtocolError"
  | localProtocol => "LocalProtocolError"
  | tooManyRedirects => "TooManyRedirects"
  | decoding => "DecodingError"
  | invalidUrl => "InvalidURL"
  | system => "OSError"
  | connection => "ConnectionError"
  | connectionAborted => "ConnectionAbortedError"
  | connectionRefused => "ConnectionRefusedError"
  | connectionReset => "ConnectionResetError"
  | brokenPipe => "BrokenPipeError"
  | timedOut => "TimeoutError"
  | notFound => "FileNotFoundError"
  | fileExists => "FileExistsError"
  | isDirectory => "IsADirectoryError"
  | notDirectory => "NotADirectoryError"
  | permission => "PermissionError"
  | blocking => "BlockingIOError"
  | childProcess => "ChildProcessError"
  | interrupted => "InterruptedError"
  | processLookup => "ProcessLookupError"
  | tls => "SSLError"
  | tlsCertificate => "SSLCertVerificationError"
  | value => "ValueError"
  | runtime => "RuntimeError"
  | key => "KeyError"
  | other => "Exception"
  | classified _ => "TransportError"
  | noStatus => "ProtocolError"
  | configuration => "ConfigurationError"

/-- The kinds that are reported from outside. -/
def reported : List FailureKind :=
  [exchange, timeout, connectTimeout, readTimeout, writeTimeout, poolTimeout, network, connect, read,
    write, close, proxy, unsupportedProtocol, protocol, remoteProtocol, localProtocol, tooManyRedirects,
    decoding, invalidUrl, system, connection, connectionRefused, connectionReset, brokenPipe, timedOut,
    tls, tlsCertificate, value, runtime, key, other]

/-- The reported kind of a name. -/
def ofLabel? (s : String) : Option FailureKind := reported.find? fun k => k.label == s

/-- The kind that the system reports with an error number. -/
def ofErrorNumber (n : Int) : FailureKind :=
  let known : List (Int × FailureKind) :=
    [(1, permission), (2, notFound), (3, processLookup), (4, interrupted), (10, childProcess),
      (11, blocking), (13, permission), (17, fileExists), (20, notDirectory), (21, isDirectory),
      (32, brokenPipe), (103, connectionAborted), (104, connectionReset), (108, brokenPipe),
      (110, timedOut), (111, connectionRefused), (114, blocking), (115, blocking)]
  (known.lookup n).getD system

/-- Failures of the proxy. -/
def isProxy (k : FailureKind) : Bool := k == proxy

/-- Failures because something took too long. -/
def isTimeout : FailureKind → Bool
  | timeout | connectTimeout | readTimeout | writeTimeout | poolTimeout | timedOut => true
  | _ => false

/-- Failures of the secure layer. -/
def isTls : FailureKind → Bool
  | tls | tlsCertificate => true
  | _ => false

/-- Failures to reach the other side. -/
def isConnection : FailureKind → Bool
  | connect | connection | connectionAborted | connectionRefused | connectionReset | brokenPipe =>
    true
  | _ => false

/-- Failures that the system reports. -/
def isSystem : FailureKind → Bool
  | system | connection | connectionAborted | connectionRefused | connectionReset | brokenPipe
  | timedOut | notFound | fileExists | isDirectory | notDirectory | permission | blocking
  | childProcess | interrupted | processLookup | tls | tlsCertificate => true
  | _ => false

/-- Failures of the exchange of messages. -/
def isExchange : FailureKind → Bool
  | exchange | timeout | connectTimeout | readTimeout | writeTimeout | poolTimeout | network
  | connect | read | write | close | proxy | unsupportedProtocol | protocol | remoteProtocol
  | localProtocol => true
  | _ => false

/-- Failures that are classified before they are reported. -/
def isTransport (k : FailureKind) : Bool := k.isExchange || k.isSystem

end FailureKind

/-- The words of an exchange that ended without a status. -/
def noStatusMessage : String := "Status code unknown, connection hasn't been attempted."

/-- A failure with its text, its cause and its context. -/
inductive Failure where
  | mk (kind : FailureKind) (text : String) (cause context : Option Failure)

namespace Failure

/-- The kind of a failure. -/
def kind : Failure → FailureKind
  | mk k _ _ _ => k

/-- The text of a failure; it may be empty. -/
def text : Failure → String
  | mk _ t _ _ => t

/-- A failure that nothing else led to. -/
def plain (kind : FailureKind) (text : String) : Failure := mk kind text none none

/-- The text that a kind gives to what it was told: nothing, or a message with or without an error
number. -/
def describe (kind : FailureKind) (message : Option String) (number : Option Int) : String :=
  match message, number with
  | none, none => if kind.isTls then "()" else if kind = .noStatus then noStatusMessage else ""
  | some m, none =>
    if kind.isTls then "(" ++ Text.quoted m ++ ",)" else if kind = .key then Text.quoted m else m
  | m, some n =>
    let words := m.getD "None"
    if kind.isTls then words
    else if kind.isSystem then "[Errno " ++ toString n ++ "] " ++ words
    else "(" ++ toString n ++ ", " ++ (m.elim "None" Text.quoted) ++ ")"

/-- The kinds along the chain of a failure: its own, then those of its cause, or of its context when
it has no cause. -/
def kinds : Failure → List FailureKind
  | mk k _ (some cause) _ => k :: cause.kinds
  | mk k _ none (some context) => k :: context.kinds
  | mk k _ none none => [k]

/-- The class of a failure. -/
def exchangeClass (f : Failure) : ExchangeClass :=
  if f.kind.isProxy then .proxyError
  else if f.kind.isTimeout then .networkTimeout
  else if f.kinds.any FailureKind.isTls then .sslError
  else if f.kind.isConnection then .connectionError
  else .unknown

/-- The words of a failure: its text, or the name of its kind when it has none. -/
def words (f : Failure) : String := if f.text.isEmpty then f.kind.label else f.text

end Failure

end HttpCourier
