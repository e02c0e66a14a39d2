import ForwardProxy.Bytes

namespace ForwardProxy

/-!
# Protocols

Which protocol a client speaks is told by the first octet it sends; in the program this is
`detect_protocol`, with a `ProxyProtocol` for its answer.
-/

/-- The protocols that are served on one port. -/
inductive Protocol where
  | socks5
  | httpConnect
  deriving DecidableEq, Repr

namespace Protocol

/-- The octet that opens every SOCKS5 message. -/
def socksVersion : UInt8 := 5

/-- The protocol whose messages open with an octet. -/
def detect (first : UInt8) : Protocol := if first = socksVersion then socks5 else httpConnect

/-- The name of a protocol. -/
def name : Protocol → String
  | socks5 => "socks5"
  | httpConnect => "http"

end Protocol

end ForwardProxy
