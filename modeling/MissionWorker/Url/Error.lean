namespace MissionWorker.Url

inductive Error where
  | emptyHost
  | badDomain
  | badHostCharacter
  | badPort
  | badFour
  | badSix
  | noBase
  | solidBase
  deriving DecidableEq

def Error.display : Error → String
  | .emptyHost => "empty host"
  | .badDomain => "invalid international domain name"
  | .badHostCharacter => "invalid domain character"
  | .badPort => "invalid port number"
  | .badFour => "invalid IPv4 address"
  | .badSix => "invalid IPv6 address"
  | .noBase => "relative URL without a base"
  | .solidBase => "relative URL with a cannot-be-a-base base"

end MissionWorker.Url
