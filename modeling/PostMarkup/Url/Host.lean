import PostMarkup.Url.Domain
import PostMarkup.Url.Ipv6

/-! # Hosts of addresses

A host in brackets is an address of sixteen bytes. On the web any other host is a domain name or an
address of four bytes; elsewhere it is any text without delimiters.
-/

namespace PostMarkup.Url

def isBracketed (host : List Char) : Bool :=
  host.head? = some '[' && 2 ≤ host.length && host.getLast? = some ']' &&
    isIpv6 host.tail.dropLast

def isHost (host : List Char) : Bool :=
  if host.head? = some '[' then isBracketed host else isDomain host

def isOpaqueHost (host : List Char) : Bool :=
  if host.head? = some '[' then isBracketed host else !host.any isDelimiter

end PostMarkup.Url
