import ForwardProxy.Failure
import ForwardProxy.Stream.Lookahead
import ForwardProxy.Text.Utf8

namespace ForwardProxy.Response

/-!
# Responses

The two answers that an HTTP client can get: the one that announces a tunnel, which has neither
headers nor body, and an error, whose length is given so that its end is known.  In the program
they are written by `send_connect_established` and `write_http_error`.
-/

/-- The octets of a text. -/
def octets (s : String) : Bytes := Utf8.encode s.toList

/-- The answer that announces a tunnel. -/
def established : Bytes := octets "HTTP/1.1 200 Connection Established\r\n\r\n"

/-- The head of an error answer. -/
def errorHead (code : Nat) (reason : String) (length : Nat) : String :=
  s!"HTTP/1.1 {code} {reason}\r\n" ++ "Content-Type: text/plain; charset=utf-8\r\n" ++
    s!"Content-Length: {length}\r\n" ++ "Connection: close\r\n\r\n"

/-- An error answer. -/
def error (code : Nat) (reason body : String) : Bytes :=
  octets (errorHead code reason (octets body).length) ++ octets body

/-- The answer to a failure; none if no request causes it. -/
def ofFailure? (failure : Failure) : Option Bytes :=
  failure.httpStatus?.map fun status => error status.1 status.2 failure.httpBody

end ForwardProxy.Response
