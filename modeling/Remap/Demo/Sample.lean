/-!
The sample map and sources that the demo reads when no other text is given: a store's order
event, parameters and loyalty records, mapped into one order. The texts are kept line by line,
with no line break after the last line.
-/

namespace Remap.Demo

/-- The lines of the sample map. -/
def sampleMapLines : List String := [
  "\x7b",
  "    \"catalog\": \"STRING.storefront-catalog-us\",",
  "    \"customer_id\": \"sample_event.customer_id\",",
  "    \"order_values\": \x7b",
  "        \"item_total\": \"sample_event.price\",",
  "        \"tax\": \"sample_event.tax\",",
  "        \"transaction_total\": \"sample_event.total_capture_ammount\"",
  "    \x7d,",
  "    \"store_location\": \"transaction_data.store_id\",",
  "    \"order_type\": \"sample_paramstore.param5\",",
  "    \"tags\": \"sample_event.order_tags\",",
  "    \"channel_id\": \"INT.21347\",",
  "    \"notifications\": \"LIST.order.accepted, order.cancelled, order.shipped\",",
  "    \"transaction\": \x7b",
  "        \"id\": \"transaction_data.transaction_id\",",
  "        \"employee_id\": \"transaction_data.employee_id\"",
  "    \x7d,",
  "    \"shipping_address\": \"sample_event.customer_address\",",
  "    \"loyalty_eligable\": \"BOOL.true\",",
  "    \"loyalty\": \x7b",
  "        \"account_number\": \"loyalty_data.loyalty_account\",",
  "        \"balance\": \"loyalty_data.balance.OR.loyalty_data.point_balance\",",
  "        \"gift_card_purchase\": \"transaction_data.gift_card.OR.BOOL.false\",",
  "        \"customer_state\": \"sample_event.customer_address.state\",",
  "        \"loyalty_rep\": \"loyalty_data.rep_id.OR.SKIP\"",
  "    \x7d",
  "\x7d"]

/-- The lines of the sample sources. -/
def sampleSourcesLines : List String := [
  "\x7b",
  "    \"sample_event\": \x7b",
  "        \"event_type\": \"sample.event\",",
  "        \"customer_id\": \"123456abcd\",",
  "        \"customer_address\": \x7b",
  "            \"street_1\": \"123 Fake St\",",
  "            \"street_2\": null,",
  "            \"city\": \"Charleston\",",
  "            \"state\": \"SC\",",
  "            \"country\": \"US\",",
  "            \"zip_code\": 29414",
  "        \x7d,",
  "        \"price\": 134.99,",
  "        \"tax\": 18.34,",
  "        \"total_capture_ammount\": 153.33,",
  "        \"order_tags\": [",
  "            \"Shopify\",",
  "            \"Clothing\",",
  "            \"Expensive Clothing\",",
  "            \"Some Other Random Tag\"",
  "        ]",
  "    \x7d,",
  "    \"sample_paramstore\": \x7b",
  "        \"param1\": \"Cash and Carry\",",
  "        \"param2\": \"Endless Aisle\",",
  "        \"param3\": \"BOPIS\",",
  "        \"param4\": \"I am populating this with random industry sounding words\",",
  "        \"param5\": \"ecomm\"",
  "    \x7d,",
  "    \"transaction_data\": \x7b",
  "        \"store_id\": \"US01\",",
  "        \"employee_id\": \"0D5YE91\",",
  "        \"transaction_id\": \"000001\",",
  "        \"transaction_ammount\": 153.33",
  "    \x7d,",
  "    \"loyalty_data\": \x7b",
  "        \"loyalty_account\": \"abc123idontknow\",",
  "        \"point_balance\": 1345,",
  "        \"last_purchase_id\": \"123-abc-last-purchase-id\"",
  "    \x7d",
  "\x7d"]

/-- The text of the sample map. -/
def sampleMap : String := "\n".intercalate sampleMapLines

/-- The text of the sample sources. -/
def sampleSources : String := "\n".intercalate sampleSourcesLines

end Remap.Demo
