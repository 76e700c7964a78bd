namespace PgMetrics

inductive UrlError where
  | emptyHost
  | invalidPort
  | invalidIpv6
  | invalidHost
  deriving DecidableEq, Repr

def UrlError.message : UrlError → String
  | emptyHost => "empty host"
  | invalidPort => "invalid port number"
  | invalidIpv6 => "invalid IPv6 address"
  | invalidHost => "invalid domain character"

end PgMetrics
