import RowSieve.Chain

/-! The canonical text of a chain: its steps with one blank between them. -/
namespace RowSieve

def Step.render : Step → Text
  | print => ['p', ';']
  | set field value => 's' :: ' ' :: field ++ '=' :: value ++ [';']

def Chain.render : Chain → Text
  | [] => []
  | [step] => step.render
  | step :: steps => step.render ++ ' ' :: Chain.render steps

end RowSieve
